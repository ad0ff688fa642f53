import CypherPages.Markdown.Render
import CypherPages.Settings.Basic

/-! # Pages from Markdown

A Markdown document becomes a page in one build. The assets of its query blocks, if it has any,
stand in the head of the page. -/

namespace CypherPages

namespace BuildPass

def ofSettings (settings : Settings) (format : Text) : BuildPass :=
  .start format settings.endpoint settings.timeout

end BuildPass

namespace MarkdownPage

def assemble (title assets body : Text) : Text :=
  "<!doctype html>\n<html lang=\"en\">\n<head>\n<meta charset=\"utf-8\">\n<title>".toList ++
    Html.escape title ++ "</title>\n".toList ++
    (if assets.isEmpty then [] else assets ++ ['\n']) ++ "</head>\n<body>\n".toList ++ body ++
    "</body>\n</html>\n".toList

def build (settings : Settings) (document title format : Text) : Except AssetError Text :=
  match Markdown.render (.ofSettings settings format) document with
  | .error error => .error error
  | .ok (body, pass) => pass.renderAssets.map fun assets => assemble title assets body

end MarkdownPage

end CypherPages
