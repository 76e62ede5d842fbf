/-! The static files of the standard template: a script that shows the table of
contents, and a style sheet. -/

namespace DocSite.Template

/-- A static file: where it stands below the static files, and its text. -/
structure Asset where
  place : List String
  text : String
deriving DecidableEq, Repr

/-- The script that shows the table of contents on a page. -/
def tocScript : Asset where
  place := ["scripts", "baseline-toc.js"]
  text := String.join ([
    "(function() \x7b",
    "  function render(entries) \x7b",
    "    var list = document.createElement('ul');",
    "    entries.forEach(function(entry) \x7b",
    "      var item = document.createElement('li');",
    "      item.innerHTML = entry.label;",
    "      if (entry.children.length) \x7b",
    "        item.appendChild(render(entry.children));",
    "      \x7d",
    "      list.appendChild(item);",
    "    \x7d);",
    "    return list;",
    "  \x7d",
    "",
    "  document.addEventListener('DOMContentLoaded', function() \x7b",
    "    var nav = document.getElementById('toc');",
    "    if (nav && window.baselineToc) \x7b",
    "      nav.appendChild(render(window.baselineToc));",
    "    \x7d",
    "  \x7d);",
    "\x7d)();"].map (· ++ "\n"))

def styleSheet : Asset where
  place := ["styles", "baseline.css"]
  text := String.join ([
    "body \x7b",
    "  display: flex;",
    "  font-family: system-ui, sans-serif;",
    "  margin: 0;",
    "\x7d",
    "",
    "#toc \x7b",
    "  border-right: 1px solid #ddd;",
    "  min-width: 14rem;",
    "  padding: 1rem;",
    "\x7d",
    "",
    "main \x7b",
    "  flex: 1;",
    "  padding: 1rem 2rem;",
    "\x7d",
    "",
    ".ancestors a::after \x7b",
    "  content: \".\";",
    "\x7d",
    "",
    "pre \x7b",
    "  background: #f6f8fa;",
    "  overflow-x: auto;",
    "  padding: 0.75rem;",
    "\x7d",
    "",
    ".disabled \x7b",
    "  color: #888;",
    "\x7d"].map (· ++ "\n"))

def assets : List Asset := [tocScript, styleSheet]

end DocSite.Template
