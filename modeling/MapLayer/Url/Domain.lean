import MapLayer.Text.Normal
import MapLayer.Url.Domain.Direction
import MapLayer.Url.Domain.Joiner
import MapLayer.Url.Domain.Mapping
import MapLayer.Url.Punycode

/-!
Internationalized names. A name is read into labels in normal form, in small letters; a label with
letters beyond ASCII has an ASCII form behind the mark `xn--`, which may be given in its place.
-/

namespace MapLayer.Url.Domain

open MapLayer.Text

def isForbidden (c : Char) : Bool :=
  c.toNat ≤ 0x20 || c.toNat == 0x7F
    || ['#', '/', ':', '<', '>', '?', '@', '[', '\\', ']', '^', '|', '%'].contains c

def isAscii (s : List Char) : Bool := s.all fun c => c.toNat < 0x80

/-- The mark of a label that is given in its ASCII form. -/
def asciiMark : List Char := ['x', 'n', '-', '-']

/-- A label as it is meant, and in ASCII. -/
structure Label where
  meant : List Char
  ascii : List Char

def maxLength : Nat := 1000

def maxAsciiLength : Nat := 2000

/-- Whether a label beyond ASCII may be part of a name. It does not start with a mark, nor like an
ASCII form. -/
def isSound (label : List Char) : Bool :=
  !label.head?.any isMark && (after? asciiMark label).isNone && joinersFit [] label
    && label.length ≤ maxLength

/-- The label of an ASCII form. It needs one, and is in normal form. -/
def ofAscii? (form : List Char) : Option (List Char) := do
  if maxAsciiLength < form.length then none
  else
    let label ← Punycode.decode? form
    if !isAscii label && label.all isPlainIn && normal label == label && isSound label then some label
    else none

def label? (s : List Char) : Option Label :=
  match after? asciiMark s with
  | some form => if isAscii form then (ofAscii? form).map (⟨·, s⟩) else none
  | none =>
    if isAscii s then some ⟨s, s⟩
    else if isSound s then some ⟨s, asciiMark ++ Punycode.encode s⟩
    else none

/-- A name in ASCII and small letters. -/
def asciiName? (name : List Char) : Option (List Char) := do
  let meanings ← name.mapM meaning?
  let labels ← (pieces '.' (normal meanings.flatten)).mapM label?
  let meant := labels.map (·.meant)
  let ascii := join ['.'] (labels.map (·.ascii))
  if (isTwoWay meant && !meant.all hasOneDirection) || ascii.any isForbidden then none
  else some ascii

end MapLayer.Url.Domain
