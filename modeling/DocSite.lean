import DocSite.Main
import DocSite.Proofs.Build.CleanRun
import DocSite.Proofs.Build.Dangling
import DocSite.Proofs.Build.FailedWrite
import DocSite.Proofs.Build.Linked
import DocSite.Proofs.Build.PageFiles
import DocSite.Proofs.Build.Sections
import DocSite.Proofs.Build.SharedContents
import DocSite.Proofs.CommandLine.Loading
import DocSite.Proofs.Config.KeySpelling
import DocSite.Proofs.Config.Overrides
import DocSite.Proofs.Doclet.Order
import DocSite.Proofs.Files.StaticFiles
import DocSite.Proofs.Link.IssuedFiles
import DocSite.Proofs.Link.Permanence
import DocSite.Proofs.Link.SafeMarkup
import DocSite.Proofs.Link.ShownFiles
import DocSite.Proofs.Link.WrappedText
import DocSite.Proofs.Nav.Contents
import DocSite.Proofs.Nav.InnerVariations
import DocSite.Proofs.Nav.Mirroring
import DocSite.Proofs.Symbol.Ancestry
import DocSite.Proofs.Symbol.Landing
import DocSite.Proofs.Symbol.Listeners
import DocSite.Proofs.Symbol.ModuleExports
import DocSite.Proofs.Symbol.PageIds
import DocSite.Proofs.Symbol.Placing
import DocSite.Proofs.Symbol.SeeEntries
import DocSite.Proofs.Symbol.ShortPaths
import DocSite.Proofs.Text.Captions
import DocSite.Proofs.Tutorial.Histories
import DocSite.Proofs.Tutorial.Lossless
