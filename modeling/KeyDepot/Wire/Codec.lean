import KeyDepot.Error

/-!
Binary forms of values. A codec writes a value and reads it from the front of a byte sequence;
records, lists and choices are put together from the codecs of their parts. Numbers have a fixed
width and come least significant byte first, and a length is a number of 64 bits.
-/

namespace KeyDepot.Wire

/-- What reading a value from the front of some bytes gives: the value and the bytes after it. -/
abbrev ReadResult (α : Type) := Except WireFault (α × Bytes)

/-- A binary form for the values of a type. -/
structure Codec (α : Type) where
  write : α → Bytes
  /-- How many bytes `write` gives, known without writing them. -/
  size : α → Nat
  length_write : ∀ value, (write value).length = size value
  read : Bytes → ReadResult α

variable {α β : Type}

/-- A number in `width` bytes. -/
def readLittle (width : Nat) (input : Bytes) : ReadResult Nat :=
  match input.splitExact? width with
  | some (bytes, rest) => .ok (bytes.littleValue, rest)
  | none => .error .endOfInput

namespace Codec

/-- The values of a type in one-to-one correspondence with another type that has a codec. -/
def via (codec : Codec α) (wrap : α → β) (unwrap : β → α) : Codec β where
  write value := codec.write (unwrap value)
  size value := codec.size (unwrap value)
  length_write value := codec.length_write (unwrap value)
  read input :=
    match codec.read input with
    | .ok (value, rest) => .ok (wrap value, rest)
    | .error fault => .error fault

/-- One value after the other. -/
def pair (first : Codec α) (second : Codec β) : Codec (α × β) where
  write value := first.write value.1 ++ second.write value.2
  size value := first.size value.1 + second.size value.2
  length_write value := by
    rw [List.length_append, first.length_write, second.length_write]
  read input :=
    match first.read input with
    | .error fault => .error fault
    | .ok (left, rest) =>
      match second.read rest with
      | .error fault => .error fault
      | .ok (right, rest) => .ok ((left, right), rest)

def word8 : Codec UInt8 where
  write value := [value]
  size _ := 1
  length_write _ := rfl
  read
    | [] => .error .endOfInput
    | byte :: rest => .ok (byte, rest)

def word32 : Codec UInt32 where
  write value := Bytes.little 4 value.toNat
  size _ := 4
  length_write value := Bytes.length_little 4 value.toNat
  read input :=
    match readLittle 4 input with
    | .ok (value, rest) => .ok (UInt32.ofNat value, rest)
    | .error fault => .error fault

def word64 : Codec UInt64 where
  write value := Bytes.little 8 value.toNat
  size _ := 8
  length_write value := Bytes.length_little 8 value.toNat
  read input :=
    match readLittle 8 input with
    | .ok (value, rest) => .ok (UInt64.ofNat value, rest)
    | .error fault => .error fault

/-- The length, then the bytes. -/
def bytes : Codec Bytes where
  write value := Bytes.little 8 value.length ++ value
  size value := 8 + value.length
  length_write value := by rw [List.length_append, Bytes.length_little]
  read input :=
    match readLittle 8 input with
    | .error fault => .error fault
    | .ok (length, rest) =>
      match rest.splitExact? length with
      | some found => .ok found
      | none => .error .endOfInput

/-- The length of the UTF-8 form, then the form. -/
def text : Codec String where
  write value := Bytes.little 8 value.utf8ByteSize ++ Bytes.ofText value
  size value := 8 + value.utf8ByteSize
  length_write value := by
    rw [List.length_append, Bytes.length_little, Bytes.length_ofText]
  read input :=
    match readLittle 8 input with
    | .error fault => .error fault
    | .ok (length, rest) =>
      match rest.splitExact? length with
      | none => .error .textOverrun
      | some (form, rest) =>
        match Text.Utf8.decode? form with
        | some value => .ok (value, rest)
        | none => .error (.badText ((Text.Utf8.fault? form).getD ⟨0, none⟩))

/-- Reads that many values, with those read so far in reverse. -/
def readMany (codec : Codec α) : Nat → List α → Bytes → ReadResult (List α)
  | 0, reversed, input => .ok (reversed.reverse, input)
  | count + 1, reversed, input =>
    match codec.read input with
    | .error fault => .error fault
    | .ok (value, rest) => readMany codec count (value :: reversed) rest

/-- The number of values, then the values. -/
def list (codec : Codec α) : Codec (List α) where
  write values := Bytes.little 8 values.length ++ values.flatMap codec.write
  size values := 8 + (values.map codec.size).foldr (· + ·) 0
  length_write values := by
    simp [Bytes.length_little, List.length_flatMap, codec.length_write, List.sum_eq_foldr]
  read input :=
    match readLittle 8 input with
    | .error fault => .error fault
    | .ok (count, rest) => codec.readMany count [] rest

/-- One byte that tells whether a value follows. -/
def option (codec : Codec α) : Codec (Option α) where
  write
    | none => [0]
    | some value => 1 :: codec.write value
  size
    | none => 1
    | some value => 1 + codec.size value
  length_write
    | none => rfl
    | some value => by rw [List.length_cons, codec.length_write, Nat.add_comm]
  read
    | [] => .error .endOfInput
    | tag :: rest =>
      if tag = 0 then .ok (none, rest)
      else if tag = 1 then
        match codec.read rest with
        | .ok (value, rest) => .ok (some value, rest)
        | .error fault => .error fault
      else .error (.optionTag tag)

/-- The place of an alternative among `count`, in 32 bits. -/
def readVariant (count : Nat) (input : Bytes) : ReadResult Nat :=
  match readLittle 4 input with
  | .error fault => .error fault
  | .ok (variant, rest) =>
    if variant < count then .ok (variant, rest) else .error (.variant variant count)

/-- One of finitely many values, by its place in the list of all. -/
def choice (all : List α) (place : α → Nat) : Codec α where
  write value := Bytes.little 4 (place value)
  size _ := 4
  length_write value := Bytes.length_little 4 (place value)
  read input :=
    match readLittle 4 input with
    | .error fault => .error fault
    | .ok (variant, rest) =>
      match all[variant]? with
      | some value => .ok (value, rest)
      | none => .error (.variant variant all.length)

/-- Reads an alternative whose fields have this codec. -/
def readAs (codec : Codec α) (make : α → β) (input : Bytes) : ReadResult β :=
  match codec.read input with
  | .ok (fields, rest) => .ok (make fields, rest)
  | .error fault => .error fault

end Codec

end KeyDepot.Wire
