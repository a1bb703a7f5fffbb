/-!
Reading bytes as UTF-8. `decodeStep` reads one character or names the bytes that are none; the
strict reader stops at the first such bytes, the lossy one puts U+FFFD in their place.
-/

namespace ClientGen.Text

/-- What stands at the front of a byte sequence. -/
inductive Decoded where
  /-- A character, and the bytes behind it. -/
  | char (c : Char) (rest : List UInt8)
  /-- Bytes that begin no character, counted, and the bytes behind them. -/
  | invalid (length : Nat) (rest : List UInt8)
  /-- The beginning of a character that the sequence cuts off. -/
  | incomplete

def isContinuation (b : UInt8) : Bool := b &&& 0xc0 == 0x80

def payload (b : UInt8) : Nat := b.toNat % 64

/-- The second byte of a three- or four-byte character is in the range its first byte allows. -/
def allowsSecond (first second : UInt8) : Bool :=
  let n := second.toNat
  if first == 0xe0 then 0xa0 ≤ n && n ≤ 0xbf
  else if first == 0xed then 0x80 ≤ n && n ≤ 0x9f
  else if first == 0xf0 then 0x90 ≤ n && n ≤ 0xbf
  else if first == 0xf4 then 0x80 ≤ n && n ≤ 0x8f
  else isContinuation second

/-- Reads what stands at the front of `b :: bs`. -/
def decodeStep (b : UInt8) (bs : List UInt8) : Decoded :=
  let n := b.toNat
  if n < 0x80 then .char (Char.ofNat n) bs
  else if 0xc2 ≤ n && n ≤ 0xdf then
    match bs with
    | [] => .incomplete
    | b₂ :: bs₂ =>
      if isContinuation b₂ then .char (Char.ofNat (n % 32 * 64 + payload b₂)) bs₂ else .invalid 1 bs
  else if 0xe0 ≤ n && n ≤ 0xef then
    match bs with
    | [] => .incomplete
    | b₂ :: bs₂ =>
      if !allowsSecond b b₂ then .invalid 1 bs
      else match bs₂ with
        | [] => .incomplete
        | b₃ :: bs₃ =>
          if isContinuation b₃ then
            .char (Char.ofNat ((n % 16 * 64 + payload b₂) * 64 + payload b₃)) bs₃
          else .invalid 2 bs₂
  else if 0xf0 ≤ n && n ≤ 0xf4 then
    match bs with
    | [] => .incomplete
    | b₂ :: bs₂ =>
      if !allowsSecond b b₂ then .invalid 1 bs
      else match bs₂ with
        | [] => .incomplete
        | b₃ :: bs₃ =>
          if !isContinuation b₃ then .invalid 2 bs₂
          else match bs₃ with
            | [] => .incomplete
            | b₄ :: bs₄ =>
              if isContinuation b₄ then
                .char (Char.ofNat
                  (((n % 8 * 64 + payload b₂) * 64 + payload b₃) * 64 + payload b₄)) bs₄
              else .invalid 3 bs₃
  else .invalid 1 bs

/-- Why bytes are no UTF-8: where the fault begins, and how many bytes it spans when the sequence
goes on behind it. -/
structure Utf8Fault where
  index : Nat
  length? : Option Nat
  deriving DecidableEq

def Utf8Fault.message (fault : Utf8Fault) : String :=
  match fault.length? with
  | some n =>
    "invalid utf-8 sequence of " ++ toString n ++ " bytes from index " ++ toString fault.index
  | none => "incomplete utf-8 byte sequence from index " ++ toString fault.index

/-- The first fault among the bytes. The first argument bounds the number of steps, the second is
the number of bytes in all. -/
def faultFrom (total : Nat) : Nat → List UInt8 → Option Utf8Fault
  | _, [] => none
  | 0, _ => none
  | k + 1, b :: bs =>
    match decodeStep b bs with
    | .char _ rest => faultFrom total k rest
    | .invalid n _ => some ⟨total - (bs.length + 1), some n⟩
    | .incomplete => some ⟨total - (bs.length + 1), none⟩

/-- The text with U+FFFD for each run of bytes that is no character. The first argument bounds the
number of steps. -/
def lossyFrom : Nat → List UInt8 → List Char
  | _, [] => []
  | 0, _ => []
  | k + 1, b :: bs =>
    match decodeStep b bs with
    | .char c rest => c :: lossyFrom k rest
    | .invalid _ rest => Char.ofNat 0xfffd :: lossyFrom k rest
    | .incomplete => [Char.ofNat 0xfffd]

/-- The text that the bytes spell, or the first place where they spell none. -/
def decodeUtf8 (bytes : ByteArray) : Except Utf8Fault String :=
  match String.fromUTF8? bytes with
  | some s => .ok s
  | none =>
    let all := bytes.toList
    .error ((faultFrom all.length all.length all).getD ⟨0, none⟩)

/-- The text that the bytes spell, with U+FFFD where they spell none. -/
def decodeUtf8Lossy (bytes : ByteArray) : String :=
  match String.fromUTF8? bytes with
  | some s => s
  | none =>
    let all := bytes.toList
    String.ofList (lossyFrom all.length all)

end ClientGen.Text
