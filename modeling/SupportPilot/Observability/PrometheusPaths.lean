import SupportPilot.Library.FileTrees
import SupportPilot.Library.JsonText

/-!
# The guard of the multiprocess directories

Which configured directory may be wiped. Paths are those of POSIX; a path is resolved against the
tree with its links, and what the interpreter raises on the way is told apart as far as the guard
does.
-/

namespace SupportPilot.Observability

open Library

abbrev AbsolutePath := List CodePoints

/-- The parts of a text between slashes. -/
def pathComponents (text : CodePoints) : List (Component CodePoints) :=
  (text.splitOn (codePoint '/')).map fun part =>
    if part = [] ∨ part = codePoints "." then .here
    else if part = codePoints ".." then .parent
    else .name part

inductive PathError
  | osError
  | valueError
  | runtimeError
  | unsafeMultiprocessDir
  deriving DecidableEq, Repr

/-- The process and the machine it runs on. The working directory is a path without links, and the
environment holds no NUL. -/
structure Machine where
  tree : FileTree CodePoints
  maxLinkDepth : Nat
  cwd : Option AbsolutePath
  home : Option CodePoints
  cwd_resolved : ∀ path, cwd = some path → tree.resolve maxLinkDepth [] (path.map .name) = some path
  home_text : ∀ text, home = some text → codePoint '\x00' ∉ text

namespace Machine

variable (m : Machine)

/-- `Path(text).resolve()`; links that lead into themselves raise `RuntimeError`. -/
def resolve (text : CodePoints) : Except PathError AbsolutePath :=
  let start : Except PathError AbsolutePath :=
    if text.head? = some (codePoint '/') then .ok []
    else
      match m.cwd with
      | none => .error .osError
      | some path => .ok path
  if codePoint '\x00' ∈ text then .error .valueError
  else
    match start with
    | .error error => .error error
    | .ok path =>
      match m.tree.resolve m.maxLinkDepth path (pathComponents text) with
      | none => .error .runtimeError
      | some resolved => .ok resolved

/-- `Path.home().resolve()`; an error that is caught leaves no directory. -/
def resolvedHome : Except PathError (Option AbsolutePath) :=
  match m.home with
  | none => .ok none
  | some text =>
    match m.resolve text with
    | .ok path => .ok (some path)
    | .error .osError | .error .runtimeError => .ok none
    | .error error => .error error

/-- `Path.cwd().resolve()` -/
def resolvedCwd : Except PathError (Option AbsolutePath) :=
  match m.cwd with
  | none => .ok none
  | some path =>
    match m.tree.resolve m.maxLinkDepth [] (path.map .name) with
    | none => .error .runtimeError
    | some resolved => .ok (some resolved)

/-- `(directory / name).exists()` -/
def pathExists (directory : AbsolutePath) (name : CodePoints) : Bool :=
  m.tree.hasEntry m.maxLinkDepth directory name

/-- `_MINIMUM_SEGMENTS_BELOW_ANCHOR` -/
def minimumSegmentsBelowAnchor : Nat := 2

def isCheckout (directory : AbsolutePath) : Bool :=
  m.pathExists directory (codePoints "manage.py") || m.pathExists directory (codePoints ".git")

def isSafeMultiprocessDir (path : CodePoints) : Except PathError Bool :=
  match m.resolve path with
  | .error .osError | .error .valueError => .ok false
  | .error error => .error error
  | .ok resolved =>
    if resolved = [] then .ok false
    else if resolved.length < minimumSegmentsBelowAnchor then .ok false
    else do
      let home ← m.resolvedHome
      if home = some resolved then .ok false
      else do
        let cwd ← m.resolvedCwd
        if cwd = some resolved then .ok false
        else if m.isCheckout resolved then .ok false
        else if resolved.dropLast = resolved then .ok false
        else .ok true

def assertSafeMultiprocessDir (path : CodePoints) : Except PathError AbsolutePath := do
  let safe ← m.isSafeMultiprocessDir path
  if safe then m.resolve path else .error .unsafeMultiprocessDir

end Machine

end SupportPilot.Observability
