/-!
Bytes read as text.  The bytes of a text are those of its characters one after another; other
bytes have a longest beginning that is a text.
-/

namespace NamespacePolicy.Text.Utf8

/-- The lower six bits of a byte that continues a character. -/
def continuation? (b : UInt8) : Option Nat :=
  if 0x80 ≤ b ∧ b < 0xC0 then some (b.toNat - 0x80) else none

/-- The character with the given code, if the code has at least the least value that needs so many
bytes. -/
def charOfCode? (least code : Nat) : Option Char :=
  if h : least ≤ code ∧ code.isValidChar then some (Char.ofNatAux code h.2) else none

def decodeChar? : List UInt8 → Option (Char × List UInt8)
  | [] => none
  | a :: rest =>
      if a < 0x80 then (charOfCode? 0 a.toNat).map (·, rest)
      else if a < 0xC0 then none
      else if a < 0xE0 then
        match rest with
        | b :: rest => do
            let b ← continuation? b
            let c ← charOfCode? 0x80 ((a.toNat - 0xC0) * 64 + b)
            return (c, rest)
        | _ => none
      else if a < 0xF0 then
        match rest with
        | b :: c :: rest => do
            let b ← continuation? b
            let c ← continuation? c
            let c ← charOfCode? 0x800 (((a.toNat - 0xE0) * 64 + b) * 64 + c)
            return (c, rest)
        | _ => none
      else if a < 0xF8 then
        match rest with
        | b :: c :: d :: rest => do
            let b ← continuation? b
            let c ← continuation? c
            let d ← continuation? d
            let c ← charOfCode? 0x10000 ((((a.toNat - 0xF0) * 64 + b) * 64 + c) * 64 + d)
            return (c, rest)
        | _ => none
      else none

/-- Takes as many characters off the front as the fuel allows, and gives the bytes that are
left. -/
def decodeFrom : (fuel : Nat) → List UInt8 → List Char × List UInt8
  | 0, bytes => ([], bytes)
  | fuel + 1, bytes =>
      match decodeChar? bytes with
      | none => ([], bytes)
      | some (c, rest) =>
          let (text, left) := decodeFrom fuel rest
          (c :: text, left)

/-- The longest text that the bytes begin with, and the bytes after it. -/
def decodeLongest (bytes : List UInt8) : List Char × List UInt8 := decodeFrom bytes.length bytes

/-- Whether a character may begin with the two bytes and go on after them. -/
def isUnfinished (a b : UInt8) : Bool :=
  0xE0 ≤ a && a < 0xF5 && (continuation? b).isSome && (a ≠ 0xE0 || 0xA0 ≤ b) &&
    (a ≠ 0xED || b < 0xA0) && (a ≠ 0xF0 || 0x90 ≤ b) && (a ≠ 0xF4 || b < 0x90)

/-- How many bytes are one fault together, where no character begins: the first byte and the bytes
after it with which a character could still have begun. -/
def faultLength : List UInt8 → Nat
  | a :: b :: rest =>
      if isUnfinished a b then
        if 0xF0 ≤ a ∧ (rest.head?.bind continuation?).isSome then 3 else 2
      else 1
  | _ => 1

/-- Reads on after each fault, in whose place one character stands. -/
def lossyFrom : (fuel : Nat) → List UInt8 → List Char
  | 0, _ => []
  | _, [] => []
  | fuel + 1, bytes =>
      match decodeChar? bytes with
      | some (c, rest) => c :: lossyFrom fuel rest
      | none => '\uFFFD' :: lossyFrom fuel (bytes.drop (faultLength bytes))

/-- The text that is shown for bytes that are no text. -/
def lossy (bytes : List UInt8) : List Char := lossyFrom bytes.length bytes

def decode? (bytes : List UInt8) : Option (List Char) :=
  match decodeLongest bytes with
  | (text, []) => some text
  | _ => none

def encode (text : List Char) : List UInt8 := text.flatMap String.utf8EncodeChar

def size : List Char → Nat
  | [] => 0
  | c :: rest => c.utf8Size + size rest

end NamespacePolicy.Text.Utf8
