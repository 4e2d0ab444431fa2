/-!
# UTF-8

Reading characters from bytes. A byte that begins no well-formed sequence is reported as such by
`next?`; `decode?` refuses the whole text, `readable` puts a NUL character in its place.
-/

namespace ManagementServer.Text.Utf8

/-- The continuation byte's six bits. -/
def continuation? (b : UInt8) : Option Nat :=
  if 0x80 ≤ b && b ≤ 0xBF then some (b.toNat - 0x80) else none

/-- The first character and the bytes behind it; `none` when they do not begin with the shortest
form of a scalar value. -/
def next? : List UInt8 → Option (Char × List UInt8)
  | [] => none
  | b :: rest =>
    if b < 0x80 then
      some (Char.ofNat b.toNat, rest)
    else if 0xC2 ≤ b && b ≤ 0xDF then
      match rest with
      | b1 :: rest => do
        let x ← continuation? b1
        some (Char.ofNat ((b.toNat - 0xC0) * 64 + x), rest)
      | _ => none
    else if 0xE0 ≤ b && b ≤ 0xEF then
      match rest with
      | b1 :: b2 :: rest => do
        let x ← continuation? b1
        let y ← continuation? b2
        let n := (b.toNat - 0xE0) * 4096 + x * 64 + y
        if n < 0x800 || (0xD800 ≤ n && n ≤ 0xDFFF) then none else some (Char.ofNat n, rest)
      | _ => none
    else if 0xF0 ≤ b && b ≤ 0xF4 then
      match rest with
      | b1 :: b2 :: b3 :: rest => do
        let x ← continuation? b1
        let y ← continuation? b2
        let z ← continuation? b3
        let n := (b.toNat - 0xF0) * 262144 + x * 4096 + y * 64 + z
        if n < 0x10000 || 0x10FFFF < n then none else some (Char.ofNat n, rest)
      | _ => none
    else none

/-- Reads at most `fuel` characters onto `done`. -/
def readableLoop (done : List Char) : Nat → List UInt8 → List Char
  | 0, _ => done.reverse
  | _, [] => done.reverse
  | fuel + 1, b :: rest =>
    match next? (b :: rest) with
    | some (c, rest) => readableLoop (c :: done) fuel rest
    | none => readableLoop (Char.ofNat 0 :: done) fuel rest

/-- The characters of a byte string. A byte that begins no character reads as NUL, which no text
format of this library admits, so such a text is refused where the byte stands. -/
def readable (bytes : List UInt8) : List Char :=
  readableLoop [] bytes.length bytes

/-- Decodes at most `fuel` characters onto `done`. -/
def decodeLoop (done : List Char) : Nat → List UInt8 → Option (List Char)
  | _, [] => some done.reverse
  | 0, _ => none
  | fuel + 1, bytes =>
    match next? bytes with
    | some (c, rest) => decodeLoop (c :: done) fuel rest
    | none => none

/-- The characters of a byte string, if it is well-formed throughout. -/
def decode? (bytes : List UInt8) : Option (List Char) :=
  decodeLoop [] bytes.length bytes

/-- The bytes of one character. -/
def encodeChar (c : Char) : List UInt8 :=
  let n := c.toNat
  if n < 0x80 then [n.toUInt8]
  else if n < 0x800 then [(0xC0 + n / 64).toUInt8, (0x80 + n % 64).toUInt8]
  else if n < 0x10000 then
    [(0xE0 + n / 4096).toUInt8, (0x80 + n / 64 % 64).toUInt8, (0x80 + n % 64).toUInt8]
  else
    [(0xF0 + n / 262144).toUInt8, (0x80 + n / 4096 % 64).toUInt8, (0x80 + n / 64 % 64).toUInt8,
      (0x80 + n % 64).toUInt8]

/-- The bytes of a text. -/
def encode (cs : List Char) : List UInt8 :=
  cs.flatMap encodeChar

/-- How many bytes a text takes. -/
def size (cs : List Char) : Nat :=
  cs.foldl (fun n c => n + c.utf8Size) 0

end ManagementServer.Text.Utf8
