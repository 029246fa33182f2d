/-!
# UTF-8

`decode?` reads well-formed bytes and nothing else. `decodeLossy` reads any bytes and puts one
replacement character for each longest piece that no well-formed text could continue.
-/

namespace LayeredConfig.Text.Utf8

/-- The bytes of a text. -/
def encode (s : String) : List UInt8 := s.toUTF8.data.toList

/-- The text with these bytes, if they are well-formed. -/
def decode? (bytes : List UInt8) : Option String := String.fromUTF8? ⟨bytes.toArray⟩

/-- The character that stands for bytes without a meaning. -/
def replacement : Char := Char.ofNat 0xfffd

/-- The payload of a continuation byte. -/
def payload (b : UInt8) : Nat := b.toNat % 64

/-- A continuation byte, `10xxxxxx`. -/
def isContinuation (b : UInt8) : Bool := 0x80 ≤ b && b ≤ 0xbf

/-- Whether `second` may follow the lead byte `lead` of a sequence of two or more bytes. -/
def mayFollow (lead second : UInt8) : Bool :=
  if lead = 0xe0 then 0xa0 ≤ second && second ≤ 0xbf
  else if lead = 0xed then 0x80 ≤ second && second ≤ 0x9f
  else if lead = 0xf0 then 0x90 ≤ second && second ≤ 0xbf
  else if lead = 0xf4 then 0x80 ≤ second && second ≤ 0x8f
  else isContinuation second

/-- The first character of the bytes that follow a lead byte, with the number of them it uses. -/
def decodeAfter (lead : UInt8) (rest : List UInt8) : Char × Nat :=
  let a := lead.toNat
  if lead < 0x80 then (Char.ofNat a, 0)
  else if lead < 0xc2 || 0xf4 < lead then (replacement, 0)
  else match rest with
    | [] => (replacement, 0)
    | b :: rest =>
      if !mayFollow lead b then (replacement, 0)
      else if lead < 0xe0 then (Char.ofNat (a % 32 * 64 + payload b), 1)
      else match rest with
        | [] => (replacement, 1)
        | c :: rest =>
          if !isContinuation c then (replacement, 1)
          else if lead < 0xf0 then (Char.ofNat ((a % 16 * 64 + payload b) * 64 + payload c), 2)
          else match rest with
            | [] => (replacement, 2)
            | d :: _ =>
              if !isContinuation d then (replacement, 2)
              else (Char.ofNat (((a % 8 * 64 + payload b) * 64 + payload c) * 64 + payload d), 3)

/-- The characters of any bytes; `skip` bytes at the front belong to the character before. -/
def decodeLossyFrom (skip : Nat) (done : List Char) : List UInt8 → List Char
  | [] => done.reverse
  | b :: rest => match skip with
    | k + 1 => decodeLossyFrom k done rest
    | 0 =>
      let (c, used) := decodeAfter b rest
      decodeLossyFrom used (c :: done) rest

/-- The text of any bytes. -/
def decodeLossy (bytes : List UInt8) : String := String.ofList (decodeLossyFrom 0 [] bytes)

end LayeredConfig.Text.Utf8
