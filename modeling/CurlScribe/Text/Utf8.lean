/-!
Reading UTF-8 that may be damaged: each longest start of a character that breaks off is read as one
U+FFFD, and so is each byte that starts none.
-/

namespace CurlScribe.Text

def isTail (b : UInt8) : Bool := 0x80 ≤ b && b ≤ 0xbf

def isSecond (first second : UInt8) : Bool :=
  if first = 0xe0 then 0xa0 ≤ second && second ≤ 0xbf
  else if first = 0xed then 0x80 ≤ second && second ≤ 0x9f
  else if first = 0xf0 then 0x90 ≤ second && second ≤ 0xbf
  else if first = 0xf4 then 0x80 ≤ second && second ≤ 0x8f
  else isTail second

def broken : Char := '\ufffd'

def decodeChar (a : UInt8) (rest : List UInt8) : Char × Nat :=
  if a < 0x80 then (.ofNat a.toNat, 0)
  else if a < 0xc2 || 0xf4 < a then (broken, 0)
  else
    match rest with
    | [] => (broken, 0)
    | b :: rest =>
      if !isSecond a b then (broken, 0)
      else if a < 0xe0 then (.ofNat (a.toNat % 32 * 64 + b.toNat % 64), 1)
      else
        match rest with
        | [] => (broken, 1)
        | c :: rest =>
          if !isTail c then (broken, 1)
          else if a < 0xf0 then
            (.ofNat ((a.toNat % 16 * 64 + b.toNat % 64) * 64 + c.toNat % 64), 2)
          else
            match rest with
            | [] => (broken, 2)
            | d :: _ =>
              if !isTail d then (broken, 2)
              else
                (.ofNat (((a.toNat % 8 * 64 + b.toNat % 64) * 64 + c.toNat % 64) * 64
                  + d.toNat % 64), 3)

def decodeFrom : Nat → List UInt8 → List Char
  | _, [] => []
  | skip + 1, _ :: rest => decodeFrom skip rest
  | 0, a :: rest => (decodeChar a rest).1 :: decodeFrom (decodeChar a rest).2 rest

def decodeUtf8 (bytes : List UInt8) : List Char := decodeFrom 0 bytes

theorem decodeFrom_eq_drop (n : Nat) (bytes : List UInt8) :
    decodeFrom n bytes = decodeFrom 0 (bytes.drop n) := by
  induction bytes generalizing n with
  | nil => simp [decodeFrom]
  | cons a rest ih =>
    cases n with
    | zero => rfl
    | succ n => simp [decodeFrom, ih]

end CurlScribe.Text
