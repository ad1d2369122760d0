import Gemtext.Document.OfMarkdown
import Gemtext.Markdown.OfText
import Gemtext.Render

/-! # From Markdown to Gemtext

A Markdown text is read into constructs, a document is built from them, and the document is
rendered.
-/

namespace Gemtext

/-- Reads a Markdown text and builds it onto the end of a document. -/
def Document.addMarkdown? (d : Document) (t : List Char) : Except Error Document :=
  (Markdown.read? t).bind d.build?

def Document.ofMarkdown? (t : List Char) : Except Error Document := addMarkdown? {} t

def convert (t : List Char) (settings : Settings) (metadata : Option Metadata) :
    Except Error (List Char) :=
  (Document.ofMarkdown? t).bind fun d => render d settings metadata

end Gemtext
