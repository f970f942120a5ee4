import Rulebound.Text.Character

/-!
# Pieces and lines of texts

Whether one text stands within another, texts joined with a separator, and the lines of a text.
-/

namespace Rulebound.Text

/-!
## Pieces of text

Whether one text stands within another, and texts joined with a separator.
-/

def startsWith : List Char → List Char → Bool
  | [], _ => true
  | _ :: _, [] => false
  | p :: part, c :: text => p == c && startsWith part text

def isWithin (part : List Char) : List Char → Bool
  | [] => part.isEmpty
  | c :: text => startsWith part (c :: text) || isWithin part text

def contains (text part : String) : Bool :=
  isWithin part.toList text.toList

def joinChars (separator : List Char) : List (List Char) → List Char
  | [] => []
  | [text] => text
  | text :: next :: rest => text ++ separator ++ joinChars separator (next :: rest)

def join (separator : String) (texts : List String) : String :=
  String.ofList (joinChars separator.toList (texts.map String.toList))

def cut (separator : Char) : List Char → List Char × Option (List Char)
  | [] => ([], none)
  | c :: rest =>
      if c = separator then ([], some rest)
      else
        let (front, back) := cut separator rest
        (c :: front, back)

/-- The pieces of a text between separators; there is one more piece than separators. -/
def splitChars (separator : Char) : List Char → List (List Char)
  | [] => [[]]
  | c :: rest =>
      if c = separator then [] :: splitChars separator rest
      else
        match splitChars separator rest with
        | [] => [[c]]
        | piece :: pieces => (c :: piece) :: pieces

/-!
## Lines

In a file a line ends with a line feed, a carriage return, or the two in that order; nothing else
ends a line. Reading gives each line with its end as a single line feed. In a stream the other
separators of lines and paragraphs end a line as well.
-/

def normalizeEnds : List Char → List Char
  | [] => []
  | '\r' :: '\n' :: rest => '\n' :: normalizeEnds rest
  | '\r' :: rest => '\n' :: normalizeEnds rest
  | c :: rest => c :: normalizeEnds rest

/-- The first line of a text, with its end as a line feed, and the text after it. The end of the
text ends an unfinished line. -/
def firstLine : List Char → List Char × List Char
  | [] => ([], [])
  | '\n' :: rest => (['\n'], rest)
  | '\r' :: '\n' :: rest => (['\n'], rest)
  | '\r' :: rest => (['\n'], rest)
  | c :: rest =>
      let (line, after) := firstLine rest
      (c :: line, after)

/-- The lines of a text that has only line feeds, given the line that is being collected in
reverse. Each line keeps its line feed. -/
def linesAux : List Char → List Char → List (List Char)
  | [], [] => []
  | line, [] => [line.reverse]
  | line, c :: rest =>
      if c = '\n' then ('\n' :: line).reverse :: linesAux [] rest else linesAux (c :: line) rest

def lines (text : List Char) : List (List Char) :=
  linesAux [] (normalizeEnds text)

/-- Whether a character ends a line of a stream. -/
def endsLine (c : Char) : Bool :=
  inRanges [(10, 13), (28, 30), (133, 133), (8232, 8233)] c

/-- The lines of a stream without their ends. A line feed after a carriage return ends an empty
line. -/
def streamLines (text : List Char) : List (List Char) :=
  splitChars '\n' (text.map fun c => if endsLine c then '\n' else c)

end Rulebound.Text
