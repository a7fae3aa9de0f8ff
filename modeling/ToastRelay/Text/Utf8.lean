/-!
# UTF-8 pieces

A byte string falls into characters and broken stretches. A broken stretch is as long as the bytes
of it could still begin a character, and at least one byte, so that each stretch is one mistake. A
byte string is a text when it has no broken stretch; read leniently, each such stretch becomes the
replacement character.
-/

namespace ToastRelay
set_option autoImplicit false

abbrev Bytes := List UInt8

namespace Text

/-- A character, or a stretch of bytes that is none. -/
inductive Piece where
  | char (c : Char)
  | broken (size : Nat)
  deriving DecidableEq, Repr, Inhabited

/-- How many bytes a character takes that begins with this byte; none begins with it for `0`. -/
def leadSize (a : UInt8) : Nat :=
  if a < 0x80 then 1
  else if a < 0xC2 then 0
  else if a < 0xE0 then 2
  else if a < 0xF0 then 3
  else if a < 0xF5 then 4
  else 0

def isTail (b : UInt8) : Bool := 0x80 ≤ b && b ≤ 0xBF

/-- A byte that can follow the first byte `a`: a tail, less the overlong forms, the surrogates and
what lies beyond the last code point. -/
def canFollow (a b : UInt8) : Bool :=
  isTail b && (a != 0xE0 || 0xA0 ≤ b) && (a != 0xED || b ≤ 0x9F) &&
    (a != 0xF0 || 0x90 ≤ b) && (a != 0xF4 || b ≤ 0x8F)

def codePoint2 (a b : UInt8) : Nat := (a.toNat - 0xC0) * 64 + (b.toNat - 0x80)

def codePoint3 (a b c : UInt8) : Nat :=
  (a.toNat - 0xE0) * 4096 + (b.toNat - 0x80) * 64 + (c.toNat - 0x80)

def codePoint4 (a b c d : UInt8) : Nat :=
  (a.toNat - 0xF0) * 262144 + (b.toNat - 0x80) * 4096 + (c.toNat - 0x80) * 64 + (d.toNat - 0x80)

def firstPiece (a : UInt8) (rest : Bytes) : Piece × Bytes :=
  match leadSize a, rest with
  | 1, r => (.char (Char.ofNat a.toNat), r)
  | 2, b :: r =>
    if canFollow a b then (.char (Char.ofNat (codePoint2 a b)), r) else (.broken 1, b :: r)
  | 3, b :: r =>
    if canFollow a b then
      match r with
      | c :: r =>
        if isTail c then (.char (Char.ofNat (codePoint3 a b c)), r) else (.broken 2, c :: r)
      | [] => (.broken 2, [])
    else (.broken 1, b :: r)
  | 4, b :: r =>
    if canFollow a b then
      match r with
      | c :: r =>
        if isTail c then
          match r with
          | d :: r =>
            if isTail d then (.char (Char.ofNat (codePoint4 a b c d)), r)
            else (.broken 3, d :: r)
          | [] => (.broken 3, [])
        else (.broken 2, c :: r)
      | [] => (.broken 2, [])
    else (.broken 1, b :: r)
  | _, r => (.broken 1, r)

theorem firstPiece_length (a : UInt8) (rest : Bytes) :
    (firstPiece a rest).2.length ≤ rest.length := by
  unfold firstPiece
  repeat' split
  all_goals simp
  all_goals omega

/-- The pieces of a byte string behind those already found, which are held last first. -/
def piecesOnto (found : List Piece) : Bytes → List Piece
  | [] => found.reverse
  | a :: rest => piecesOnto ((firstPiece a rest).1 :: found) (firstPiece a rest).2
termination_by bs => bs.length
decreasing_by
  have h := firstPiece_length a rest
  simp only [List.length_cons]
  omega

/-- The characters and broken stretches of a byte string, from first to last. -/
def pieces (bs : Bytes) : List Piece := piecesOnto [] bs

def chars? (bs : Bytes) : Option (List Char) :=
  (pieces bs).mapM fun
    | .char c => some c
    | .broken _ => none

def decode? (bs : Bytes) : Option String := (chars? bs).map String.ofList

/-- The text read from any byte string: each broken stretch gives one replacement character. -/
def decodeLenient (bs : Bytes) : String :=
  String.ofList <| (pieces bs).map fun
    | .char c => c
    | .broken _ => '\ufffd'

def encode (s : String) : Bytes := s.toList.flatMap String.utf8EncodeChar

def Piece.size : Piece → Nat
  | .char c => c.utf8Size
  | .broken n => n

end Text

end ToastRelay
