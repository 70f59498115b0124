import MapLayer.Text.Split
import MapLayer.Url.Percent

/-! The paths of addresses: segments without dots. -/

namespace MapLayer.Url

open MapLayer.Text

/-- A segment that stays where it is. A dot may be written as `%2e`. -/
def isDot (s : List Char) : Bool :=
  s == ['.'] || s == ['%', '2', 'e'] || s == ['%', '2', 'E']

def isDoubleDot (s : List Char) : Bool :=
  match s with
  | '.' :: r => isDot r
  | '%' :: '2' :: 'e' :: r | '%' :: '2' :: 'E' :: r => isDot r
  | _ => false

/-- The name of a drive: a letter with a colon or a bar. -/
def isDrive : List Char → Bool
  | [letter, mark] => letter.isAlpha && (mark == ':' || mark == '|')
  | _ => false

/-- The segments above some. There is none above a drive. -/
def above (kept : List (List Char)) : List (List Char) :=
  if kept.getLast?.any isDrive then kept else kept.dropLast

/-- Some segments and one more. A drive at the start of a file's path is written with a colon. -/
def within (isFile : Bool) (kept : List (List Char)) (s : List Char) : List (List Char) :=
  if isFile && kept.isEmpty && isDrive s then [s.take 1 ++ [':']] else kept ++ [s]

/-- The segments that remain of a path. A path that ends in dots ends in an empty segment. -/
def resolve (isFile : Bool) (kept : List (List Char)) : List (List Char) → List (List Char)
  | [] => kept
  | [s] =>
    if isDoubleDot s then above kept ++ [[]]
    else if isDot s then kept ++ [[]]
    else within isFile kept s
  | s :: rest =>
    if isDoubleDot s then resolve isFile (above kept) rest
    else if isDot s then resolve isFile kept rest
    else resolve isFile (within isFile kept s) rest

def withSlashes (s : List Char) : List Char := s.map fun c => if c = '\\' then '/' else c

def segmentsText (segments : List (List Char)) : List Char :=
  segments.flatMap fun segment => '/' :: percentEncode pathMust segment

def pathText (s : List Char) : List Char :=
  segmentsText (resolve false [] (pieces '/' s))

def fileSegments (s : List Char) : List (List Char) :=
  resolve true [] (pieces '/' (withSlashes s))

def filePath (segments : List (List Char)) : List Char :=
  '/' :: (segmentsText segments).dropWhile (· == '/')

end MapLayer.Url
