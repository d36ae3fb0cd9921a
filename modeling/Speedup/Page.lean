import Speedup.Chart.Plot
import Speedup.Text.Substitution

/-!
# Pages

A chart as a page for a browser. The page is a template with four marks, for the title, the
scripts, the plot and the time. They are filled in one after the other, so that a mark in a text
that has been filled in is filled in as well.

In the program: `HTML_TEMPLATE` and `to_html`.
-/

namespace Speedup.Page

def titleMark : String := "\x7b\x7bTITLE\x7d\x7d"
def headMark : String := "\x7b\x7bPLOTLY_HEAD\x7d\x7d"
def bodyMark : String := "\x7b\x7bPLOTLY_BODY\x7d\x7d"
def timeMark : String := "\x7b\x7bTIMESTAMP\x7d\x7d"

def template : String :=
  "<!DOCTYPE html>\n<html>\n<head>\n    <meta charset=\"utf-8\">\n    <title>" ++ titleMark ++
    "</title>\n    " ++ headMark ++ "\n</head>\n<body>\n    " ++ bodyMark ++
    "\n    <p style=\"font-family: sans-serif; font-size: small; color: #444\">Generated " ++
    timeMark ++ "</p>\n</body>\n</html>"

def head : String :=
  "<script src=\"https://cdn.jsdelivr.net/npm/mathjax@3.2.2/es5/tex-svg.js\"></script>\n" ++
    "        <script src=\"https://cdn.plot.ly/plotly-3.0.1.min.js\"></script>\n        "

/-- The place of a plot and the script that draws it there; `plot` is the text of its document. -/
def body (id plot : String) : String :=
  "<div id=\"" ++ id ++
    "\" class=\"plotly-graph-div\" style=\"height:100%; width:100%;\"></div>\n" ++
    "<script type=\"text/javascript\">\n    Plotly.newPlot(\"" ++ id ++ "\", " ++ plot ++
    ");\n</script>"

def fill (title body time : String) : String :=
  Text.replaceAll timeMark time <|
    Text.replaceAll bodyMark body <|
      Text.replaceAll headMark head <|
        Text.replaceAll titleMark title template

def html (c : Chart) (id time : String) : String := fill c.title (body id c.plot.text) time

end Speedup.Page
