import DataAccess.Number.Decimal
import DataAccess.Number.Hex

/-!
# Internet addresses

Addresses of 128 bits, as eight pieces of 16 bits. Reading takes one gap `::`, which stands for at
least one zero piece, and a dotted quad in place of the last two pieces; writing is canonical, with
the first longest run of two or more zero pieces as the gap.
-/

namespace DataAccess.Url

open Number

/-- An internet address: eight pieces. -/
structure Address where
  pieces : List UInt16
  length_eq : pieces.length = 8 := by decide
deriving DecidableEq

namespace Address

/-! ### Reading -/

/-- A number of a dotted quad: at most 255, without leading zeros. -/
def readOctet? (cs : List Char) : Option Nat :=
  match readNat? cs with
  | some n => if natText n = cs ∧ n < 256 then some n else none
  | none => none

/-- The two pieces of a dotted quad. -/
def readQuad? (cs : List Char) : Option (List UInt16) :=
  match (cs.splitOn '.').mapM readOctet? with
  | some [a, b, c, d] => some [UInt16.ofNat (256 * a + b), UInt16.ofNat (256 * c + d)]
  | _ => none

/-- The value of a run of hexadecimal digits. -/
def hexNumber (cs : List Char) : Nat :=
  cs.foldl (fun n c => 16 * n + (hexValue? c).getD 0) 0

/-- The hexadecimal digits of the piece at the front of a text, four at most. -/
def pieceDigits (cs : List Char) : List Char := (cs.take 4).takeWhile isHexDigit

/-- The parts of an address: pieces, and `none` for a gap. -/
def parts? (cs : List Char) : Option (List (Option UInt16)) :=
  match cs with
  | [] => some []
  | ':' :: rest => (parts? rest).map (none :: ·)
  | cs =>
    match cs.drop (pieceDigits cs).length with
    | [] => some [some (UInt16.ofNat (hexNumber (pieceDigits cs)))]
    | '.' :: _ => (readQuad? cs).map (·.map some)
    | ':' :: c :: rest =>
      if _h : (c :: rest).length < cs.length then
        (parts? (c :: rest)).map (some (UInt16.ofNat (hexNumber (pieceDigits cs))) :: ·)
      else none
    | _ => none
termination_by cs.length

/-- The pieces of an address whose gap, if it has one, is filled with zeros. -/
def fill (parts : List (Option UInt16)) : Option (List UInt16) :=
  match parts.splitOn none with
  | [all] => all.mapM id
  | [before, after] =>
    let known := before.length + after.length
    if known < 8 then
      (before ++ List.replicate (8 - known) (some 0) ++ after).mapM id
    else none
  | _ => none

/-- Read an address. A gap at the front needs both of its colons. -/
def ofText? (cs : List Char) : Option Address :=
  let parts := match cs with
    | ':' :: ':' :: rest => (parts? rest).map (none :: ·)
    | ':' :: _ => none
    | cs => parts? cs
  match parts.bind fill with
  | some ps => if h : ps.length = 8 then some ⟨ps, h⟩ else none
  | none => none

/-! ### Writing -/

/-- The number of zero pieces at the front. -/
def leadingZeros (ps : List UInt16) : Nat := (ps.takeWhile (· == 0)).length

/-- How many zero pieces start at each place. -/
def zeroRuns : List UInt16 → List Nat
  | [] => []
  | p :: rest => leadingZeros (p :: rest) :: zeroRuns rest

/-- A piece in hexadecimal digits. -/
def pieceText (p : UInt16) : List Char := hexText p.toNat

/-- Pieces with colons between them. -/
def piecesText (ps : List UInt16) : List Char := [':'].intercalate (ps.map pieceText)

/-- Write an address. -/
def text (a : Address) : List Char :=
  let runs := zeroRuns a.pieces
  let longest := runs.foldl max 0
  if longest < 2 then piecesText a.pieces
  else
    let start := runs.idxOf longest
    piecesText (a.pieces.take start) ++ "::".toList ++ piecesText (a.pieces.drop (start + longest))

end Address

end DataAccess.Url
