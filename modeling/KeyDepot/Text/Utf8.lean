import KeyDepot.Bytes

namespace KeyDepot.Text.Utf8

/-- Where bytes stop being UTF-8: everything before `index` is well formed, and `length` bytes from
there can start no character. Without a length the bytes end inside a character. -/
structure Fault where
  index : Nat
  length : Option Nat
  deriving DecidableEq, Repr, Inhabited

def Fault.message (fault : Fault) : String :=
  match fault.length with
  | some length => s!"invalid utf-8 sequence of {length} bytes from index {fault.index}"
  | none => s!"incomplete utf-8 byte sequence from index {fault.index}"

/-- The text whose UTF-8 form the bytes are. -/
def decode? (bytes : Bytes) : Option String :=
  let form := ByteArray.mk bytes.toArray
  if valid : form.IsValidUTF8 then some (String.ofByteArray form valid) else none

theorem decode?_ofText (text : String) : decode? (Bytes.ofText text) = some text := by
  have same : ByteArray.mk (Bytes.ofText text).toArray = text.toByteArray := by
    simp [Bytes.ofText]
  have valid : (ByteArray.mk (Bytes.ofText text).toArray).IsValidUTF8 := by
    rw [same]
    exact text.isValidUTF8
  simp only [decode?, dif_pos valid]
  congr 1

theorem ofText_of_decode? {bytes : Bytes} {text : String} (read : decode? bytes = some text) :
    Bytes.ofText text = bytes := by
  simp only [decode?] at read
  split at read
  · rename_i valid
    obtain rfl := Option.some.inj read
    simp [Bytes.ofText]
  · cases read

/-- The ranges of the bytes that continue a character with the given first byte; nothing for a byte
that starts no character. The first continuation byte is narrowed so that no character has two
forms, surrogates have none, and the last code point is the last. -/
def continuations? (first : UInt8) : Option (List (Nat × Nat)) :=
  let n := first.toNat
  if n < 0x80 then some []
  else if 0xC2 ≤ n ∧ n ≤ 0xDF then some [(0x80, 0xBF)]
  else if n = 0xE0 then some [(0xA0, 0xBF), (0x80, 0xBF)]
  else if n = 0xED then some [(0x80, 0x9F), (0x80, 0xBF)]
  else if 0xE1 ≤ n ∧ n ≤ 0xEF then some [(0x80, 0xBF), (0x80, 0xBF)]
  else if n = 0xF0 then some [(0x90, 0xBF), (0x80, 0xBF), (0x80, 0xBF)]
  else if 0xF1 ≤ n ∧ n ≤ 0xF3 then some [(0x80, 0xBF), (0x80, 0xBF), (0x80, 0xBF)]
  else if n = 0xF4 then some [(0x80, 0x8F), (0x80, 0xBF), (0x80, 0xBF)]
  else none

private def within (byte : UInt8) (range : Nat × Nat) : Bool :=
  range.1 ≤ byte.toNat && byte.toNat ≤ range.2

/-- Reads on inside a character that began at `start`, of which `seen` bytes are read and the
ranges `due` still have to come. -/
def faultFrom (start seen : Nat) : (due : List (Nat × Nat)) → Bytes → Option Fault
  | [], [] => none
  | _ :: _, [] => some ⟨start, none⟩
  | [], byte :: rest =>
    match continuations? byte with
    | none => some ⟨start + seen, some 1⟩
    | some due => faultFrom (start + seen) 1 due rest
  | range :: due, byte :: rest =>
    if within byte range then faultFrom start (seen + 1) due rest else some ⟨start, some seen⟩

/-- The first place where the bytes are not UTF-8. -/
def fault? (bytes : Bytes) : Option Fault :=
  faultFrom 0 0 [] bytes

/-- The UTF-8 form of the replacement character. -/
def replacement : Bytes := [0xEF, 0xBF, 0xBD]

/-- Copies well-formed characters and writes one replacement character for each longest piece that
begins a character and does not complete it. The pieces of `pending` and `done` are reversed. -/
private def mendFrom (pending : Bytes) (due : List (Nat × Nat)) (done : Bytes) : Bytes → Bytes
  | [] => if due.isEmpty then (pending ++ done).reverse else (replacement.reverse ++ done).reverse
  | byte :: rest =>
    let begin (done : Bytes) : Bytes :=
      match continuations? byte with
      | none => mendFrom [] [] (replacement.reverse ++ done) rest
      | some due => mendFrom [byte] due done rest
    match due with
    | [] => begin (pending ++ done)
    | range :: due =>
      if within byte range then mendFrom (byte :: pending) due done rest
      else begin (replacement.reverse ++ done)

/-- The text the bytes spell, with a replacement character for each piece that spells nothing. -/
def lossy (bytes : Bytes) : String :=
  (decode? (mendFrom [] [] [] bytes)).getD ""

end KeyDepot.Text.Utf8
