import SupportPilot.Library.Json
import SupportPilot.Library.Slices
import SupportPilot.Library.Text

/-!
# Normalization of extracted documents

Texts are normalized section by section, and the offsets of the sections are counted anew. The
composition of characters (`unicodedata.normalize("NFC", …)`) is a parameter.
-/

namespace SupportPilot.Knowledge

open Library

/-- A section of an extracted document. -/
structure ExtractedSection where
  text : List Char := []
  startOffset : Nat
  endOffset : Nat
  pageNumber : Option Nat := none
  title : Option (List Char) := none
  deriving DecidableEq, Repr

structure ExtractedDocument where
  text : List Char
  sections : List ExtractedSection
  metadata : JsonObject := []

/-! ## Texts -/

/-- `text.replace("\r\n", "\n")` -/
def replaceCrLf : List Char → List Char
  | '\r' :: '\n' :: rest => '\n' :: replaceCrLf rest
  | c :: rest => c :: replaceCrLf rest
  | [] => []

def unifyNewlines (text : List Char) : List Char :=
  (replaceCrLf text).map fun c => if c = '\r' then '\n' else c

/-- White space at the ends of the lines is removed. -/
def rstripLines (text : List Char) : List Char :=
  ['\n'].intercalate ((text.splitOn '\n').map fun line => line.rdropWhile isSpace)

/-- `re.sub(r"\n{3,}", "\n\n", text)`, after this many newlines in a row have been kept. -/
def collapseNewlines : Nat → List Char → List Char
  | _, [] => []
  | kept, c :: rest =>
    if c = '\n' then
      if kept < 2 then c :: collapseNewlines (kept + 1) rest else collapseNewlines kept rest
    else c :: collapseNewlines 0 rest

/-- `str.strip` -/
def stripText (text : List Char) : List Char := (text.dropWhile isSpace).rdropWhile isSpace

def normalizeText (nfc : List Char → List Char) (text : List Char) : List Char :=
  let text := nfc (text.filter (· ≠ '\x00'))
  let text := unifyNewlines text
  stripText (collapseNewlines 0 (rstripLines text))

/-! ## Documents -/

/-- What the loop over the sections has built. -/
structure Normalizing where
  parts : List (List Char) := []
  sections : List ExtractedSection := []
  offset : Nat := 0

def normalizeSection (nfc : List Char → List Char) (built : Normalizing)
    (sec : ExtractedSection) : Normalizing :=
  let normalized := normalizeText nfc sec.text
  if normalized = [] then built
  else
    let parts := if built.parts = [] then built.parts else built.parts ++ [['\n', '\n']]
    let start := if built.parts = [] then built.offset else built.offset + 2
    { parts := parts ++ [normalized]
      sections := built.sections ++
        [{ text := normalized, startOffset := start, endOffset := start + normalized.length,
           pageNumber := sec.pageNumber, title := sec.title }]
      offset := start + normalized.length }

def normalizeExtractedDocument (nfc : List Char → List Char) (document : ExtractedDocument) :
    ExtractedDocument :=
  let built := document.sections.foldl (normalizeSection nfc) {}
  { text := built.parts.flatten, sections := built.sections, metadata := document.metadata }

end SupportPilot.Knowledge
