import DocSite.Markdown
import DocSite.Template
import DocSite.Yaml

/-! What a run has from elsewhere: codecs, the engine of views in files, and the readers of Markdown
and of YAML. Those of this library stand where no others are given. -/

namespace DocSite

structure Tools where
  codecs : Text.Codecs := .standard
  engine : Engine := .plain
  markdown : List Char → String := Markdown.render
  yaml : Yaml.Loader := Yaml.parse

end DocSite
