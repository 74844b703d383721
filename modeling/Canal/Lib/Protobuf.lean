import Mathlib.Algebra.GroupWithZero.Nat
import Mathlib.Data.List.Basic

namespace Protobuf
set_option autoImplicit true

/-- Seven bits a byte, the low ones first, in at most `fuel + 1` bytes. -/
def varintBytes : Nat → Nat → List UInt8
  | 0, n => [UInt8.ofNat n]
  | fuel + 1, n =>
    if n < 128 then [UInt8.ofNat n] else UInt8.ofNat (n % 128 + 128) :: varintBytes fuel (n / 128)

def varint (n : Nat) : List UInt8 := varintBytes n n

/-- The number at the front, and the bytes after it. -/
def readVarint : List UInt8 → Option (Nat × List UInt8)
  | [] => none
  | b :: src =>
    if b.toNat < 128 then some (b.toNat, src)
    else (readVarint src).map fun (n, src) => (b.toNat - 128 + 128 * n, src)

theorem readVarint_varintBytes (h : n ≤ fuel) (src : List UInt8) :
    readVarint (varintBytes fuel n ++ src) = some (n, src) := by
  induction fuel generalizing n with
  | zero =>
    cases Nat.le_zero.1 h
    rfl
  | succ fuel ih =>
    by_cases hn : n < 128
    · have hb : (UInt8.ofNat n).toNat = n := by
        rw [UInt8.toNat_ofNat']
        omega
      rw [varintBytes, if_pos hn, List.singleton_append, readVarint, hb, if_pos hn]
    · have hb : (UInt8.ofNat (n % 128 + 128)).toNat = n % 128 + 128 := by
        rw [UInt8.toNat_ofNat']
        omega
      have hi := ih (n := n / 128) (by omega)
      rw [varintBytes, if_neg hn, List.cons_append, readVarint, hb, if_neg (by omega), hi,
        Option.map_some]
      simp only [Option.some.injEq, Prod.mk.injEq, and_true]
      omega

theorem readVarint_varint (n : Nat) (src : List UInt8) :
    readVarint (varint n ++ src) = some (n, src) := readVarint_varintBytes (Nat.le_refl n) src

theorem varint_ne_nil (n : Nat) : varint n ≠ [] := by
  intro h
  have hr := readVarint_varint n []
  rw [h] at hr
  cases hr

/-- The value of a field: a varint or a run of bytes. Fixed-width fields and groups are left out. -/
inductive Value
  | varint (n : Nat)
  | bytes (b : List UInt8)
deriving DecidableEq

structure Field where
  number : Nat
  value : Value
deriving DecidableEq

namespace Value

def wireType : Value → Nat
  | .varint _ => 0
  | .bytes _ => 2

def encode : Value → List UInt8
  | .varint n => Protobuf.varint n
  | .bytes b => Protobuf.varint b.length ++ b

/-- The value of a wire type at the front, and the bytes after it. -/
def read (wireType : Nat) (src : List UInt8) : Option (Value × List UInt8) :=
  match wireType with
  | 0 => (readVarint src).map fun (n, src) => (.varint n, src)
  | 2 => (readVarint src).bind fun (n, src) =>
    if src.length < n then none else some (.bytes (src.take n), src.drop n)
  | _ => none

theorem read_encode (v : Value) (src : List UInt8) :
    read v.wireType (v.encode ++ src) = some (v, src) := by
  cases v with
  | varint n =>
    rw [encode, wireType, read, readVarint_varint]
    rfl
  | bytes b =>
    have hlen : ¬ (b ++ src).length < b.length := by
      rw [List.length_append]
      omega
    rw [encode, wireType, read, List.append_assoc, readVarint_varint, Option.bind_some]
    simp only [hlen, ↓reduceIte, List.take_left, List.drop_left]

end Value

namespace Field

def encode (f : Field) : List UInt8 := varint (8 * f.number + f.value.wireType) ++ f.value.encode

def read (src : List UInt8) : Option (Field × List UInt8) :=
  (readVarint src).bind fun (tag, src) =>
    (Value.read (tag % 8) src).map fun (value, src) => ({ number := tag / 8, value }, src)

theorem read_encode (f : Field) (src : List UInt8) : read (f.encode ++ src) = some (f, src) := by
  have hw : f.value.wireType < 8 := by cases f.value <;> simp [Value.wireType]
  have hmod : (8 * f.number + f.value.wireType) % 8 = f.value.wireType := by omega
  have hdiv : (8 * f.number + f.value.wireType) / 8 = f.number := by omega
  rw [encode, read, List.append_assoc, readVarint_varint, Option.bind_some]
  simp only [hmod, hdiv, Value.read_encode, Option.map_some]

theorem encode_ne_nil (f : Field) : f.encode ≠ [] :=
  List.append_ne_nil_of_left_ne_nil (varint_ne_nil _) _

end Field

def encode (fs : List Field) : List UInt8 := fs.flatMap Field.encode

/-- The fields of a message of at most `n` fields. -/
def readFields : Nat → List UInt8 → Option (List Field)
  | _, [] => some []
  | 0, _ :: _ => none
  | n + 1, b :: src => (Field.read (b :: src)).bind fun (f, src) => (readFields n src).map (f :: ·)

def decode (src : List UInt8) : Option (List Field) := readFields src.length src

theorem readFields_encode (fs : List Field) (h : (encode fs).length ≤ n) :
    readFields n (encode fs) = some fs := by
  induction fs generalizing n with
  | nil => cases n <;> rfl
  | cons f fs ih =>
    obtain ⟨b, src, hb⟩ := List.exists_cons_of_ne_nil f.encode_ne_nil
    have he : encode (f :: fs) = f.encode ++ encode fs := List.flatMap_cons ..
    have hc : encode (f :: fs) = b :: (src ++ encode fs) := by rw [he, hb, List.cons_append]
    rw [hc, List.length_cons, List.length_append] at h
    cases n with
    | zero => omega
    | succ n =>
      have hi := ih (n := n) (by omega)
      rw [hc, readFields, ← hc, he, Field.read_encode, Option.bind_some]
      simp only [hi, Option.map_some]

theorem decode_encode (fs : List Field) : decode (encode fs) = some fs :=
  readFields_encode fs (Nat.le_refl _)

def varintSize (n : Nat) : Nat := (varint n).length

def Value.size : Value → Nat
  | .varint n => varintSize n
  | .bytes b => varintSize b.length + b.length

def Field.size (f : Field) : Nat := varintSize (8 * f.number + f.value.wireType) + f.value.size

/-- The encoded length of a message. -/
def size (fs : List Field) : Nat := (fs.map Field.size).sum

theorem Field.length_encode (f : Field) : f.encode.length = f.size := by
  rw [encode, size, List.length_append]
  congr 1
  cases f.value with
  | varint n => rfl
  | bytes b => exact List.length_append

theorem length_encode (fs : List Field) : (encode fs).length = size fs := by
  rw [encode, size, List.length_flatMap]
  congr 1
  exact List.map_congr_left fun f _ => f.length_encode

theorem size_append (fs gs : List Field) : size (fs ++ gs) = size fs + size gs := by
  rw [size, List.map_append, List.sum_append]
  rfl

structure Schema (M : Type u) where
  empty : M
  fields : M → List Field
  merge : M → Field → Option M

variable {M : Type u} {S : Schema M}

namespace Schema

def encode (S : Schema M) (m : M) : List UInt8 := Protobuf.encode (S.fields m)

/-- The fields of `src` come on top of those of `m`. -/
def mergeInto (S : Schema M) (m : M) (src : List UInt8) : Option M :=
  (Protobuf.decode src).bind fun fs => fs.foldlM S.merge m

def decode (S : Schema M) (src : List UInt8) : Option M := S.mergeInto S.empty src

/-- Merging the fields of a record gives the record. -/
def Lawful (S : Schema M) : Prop := ∀ m, (S.fields m).foldlM S.merge S.empty = some m

theorem Lawful.decode_encode (h : S.Lawful) (m : M) : S.decode (S.encode m) = some m := by
  rw [decode, mergeInto, encode, Protobuf.decode_encode]
  exact h m

end Schema

section Merging

variable {merge : M → Field → Option M}

/-- A scalar field is written unless it has its default value. -/
def scalar (isDefault : Bool) (number : Nat) (value : Value) : List Field :=
  if isDefault then [] else [{ number, value }]

/-- A field of presence is written when it is there. -/
def optional (value : Option Value) (number : Nat) : List Field :=
  value.toList.map fun value => { number, value }

def repeated (values : List Value) (number : Nat) : List Field :=
  values.map fun value => { number, value }

theorem foldlM_scalar (hd : isDefault = true → m = m')
    (hm : merge m { number, value } = some m') :
    (scalar isDefault number value).foldlM merge m = some m' := by
  cases isDefault with
  | true =>
    rw [hd rfl]
    rfl
  | false =>
    rw [scalar, if_neg Bool.false_ne_true, List.foldlM_cons, hm]
    rfl

theorem foldlM_optional {value : Option X} {enc : X → Value} (hd : value = none → m = m')
    (hm : ∀ x, value = some x → merge m { number, value := enc x } = some m') :
    (optional (value.map enc) number).foldlM merge m = some m' := by
  cases value with
  | none =>
    rw [hd rfl]
    rfl
  | some x =>
    rw [Option.map_some, optional, Option.toList_some, List.map_singleton, List.foldlM_cons,
      hm x rfl]
    rfl

theorem foldlM_repeated (set : List X → M) {enc : X → Value} {xs : List X} (h0 : m = set [])
    (h1 : set xs = m')
    (hm : ∀ l x, merge (set l) { number, value := enc x } = some (set (l ++ [x]))) :
    (repeated (xs.map enc) number).foldlM merge m = some m' := by
  suffices h : ∀ l, (repeated (xs.map enc) number).foldlM merge (set l) = some (set (l ++ xs)) by
    rw [h0, ← h1]
    exact h []
  clear h0 h1
  induction xs with
  | nil =>
    intro l
    rw [List.append_nil]
    rfl
  | cons x xs ih =>
    intro l
    have hs := ih (l ++ [x])
    rw [List.append_assoc, List.singleton_append] at hs
    rw [repeated, List.map_cons, List.map_cons, List.foldlM_cons, hm]
    exact hs

theorem foldlM_append_some (m' : M) {fs gs : List Field} (hf : fs.foldlM merge m = some m')
    (hg : gs.foldlM merge m' = some m'') : (fs ++ gs).foldlM merge m = some m'' := by
  rw [List.foldlM_append, hf]
  exact hg

end Merging

section Sizes

/-- The encoded length of a varint field and of a field of bytes. -/
def varintField (number n : Nat) : Nat := varintSize (8 * number) + varintSize n

def bytesField (number length : Nat) : Nat :=
  varintSize (8 * number + 2) + (varintSize length + length)

theorem varintSize_pos (n : Nat) : 0 < varintSize n := List.length_pos_of_ne_nil (varint_ne_nil n)

@[simp] theorem Field.size_varint (number n : Nat) :
    Field.size { number, value := .varint n } = varintField number n := rfl

@[simp] theorem Field.size_bytes (number : Nat) (b : List UInt8) :
    Field.size { number, value := .bytes b } = bytesField number b.length := rfl

@[simp] theorem size_scalar (isDefault : Bool) (number : Nat) (value : Value) :
    size (scalar isDefault number value) =
      if isDefault then 0 else Field.size { number, value } := by
  cases isDefault <;> simp [scalar, size]

@[simp] theorem size_optional (value : Option Value) (number : Nat) :
    size (optional value number) = value.elim 0 fun value => Field.size { number, value } := by
  cases value <;> simp [optional, size]

@[simp] theorem size_repeated (values : List Value) (number : Nat) :
    size (repeated values number) =
      (values.map fun value => Field.size { number, value }).sum := by
  rw [repeated, size, List.map_map]
  rfl

theorem Schema.length_encode (m : M) : (S.encode m).length = size (S.fields m) :=
  Protobuf.length_encode _

end Sizes

section Parts

theorem readVarint_suffix (h : readVarint src = some (n, rest)) : rest <:+ src := by
  induction src generalizing n rest with
  | nil => cases h
  | cons b src ih =>
    rw [readVarint] at h
    split at h
    · cases h
      exact List.suffix_cons ..
    · obtain ⟨⟨n', rest'⟩, hr, he⟩ := Option.map_eq_some_iff.1 h
      cases he
      exact (ih hr).trans (List.suffix_cons ..)

theorem Value.read_parts (h : Value.read w src = some (v, rest)) :
    rest <:+ src ∧ ∀ b, v = .bytes b → b <:+: src := by
  unfold read at h
  split at h
  · obtain ⟨⟨n, rest'⟩, hr, he⟩ := Option.map_eq_some_iff.1 h
    cases he
    exact ⟨readVarint_suffix hr, nofun⟩
  · obtain ⟨⟨n, rest'⟩, hr, he⟩ := Option.bind_eq_some_iff.1 h
    have hs := readVarint_suffix hr
    simp only at he
    split at he
    · cases he
    · cases he
      refine ⟨(List.drop_suffix ..).trans hs, fun b hb => ?_⟩
      cases hb
      exact (List.take_prefix ..).isInfix.trans hs.isInfix
  · cases h

theorem Field.read_parts (h : Field.read src = some (f, rest)) :
    rest <:+ src ∧ ∀ b, f.value = .bytes b → b <:+: src := by
  obtain ⟨⟨tag, src'⟩, hr, he⟩ := Option.bind_eq_some_iff.1 h
  obtain ⟨⟨v, rest'⟩, hv, hf⟩ := Option.map_eq_some_iff.1 he
  cases hf
  obtain ⟨hrest, hb⟩ := Value.read_parts hv
  have hs := readVarint_suffix hr
  exact ⟨hrest.trans hs, fun b hf => (hb b hf).trans hs.isInfix⟩

theorem readFields_parts (h : readFields n src = some fs) (hf : f ∈ fs)
    (hv : f.value = .bytes b) : b <:+: src := by
  induction n generalizing src fs with
  | zero =>
    cases src with
    | nil =>
      cases h
      cases hf
    | cons => cases h
  | succ n ih =>
    cases src with
    | nil =>
      cases h
      cases hf
    | cons c src =>
      rw [readFields] at h
      obtain ⟨⟨f', rest⟩, hr, he⟩ := Option.bind_eq_some_iff.1 h
      obtain ⟨fs', hfs, rfl⟩ := Option.map_eq_some_iff.1 he
      obtain ⟨hrest, hb⟩ := Field.read_parts hr
      rcases List.mem_cons.1 hf with rfl | hf
      · exact hb b hv
      · exact (ih hfs hf).trans hrest.isInfix

/-- What holds of an empty record and is kept by merging the fields of `src` holds of the record
that is decoded; the bytes that are merged are parts of `src`. -/
theorem Schema.decode_invariant {P : M → Prop} (h : S.decode src = some m) (h0 : P S.empty)
    (hm : ∀ m f m', P m → (∀ b, f.value = .bytes b → b <:+: src) → S.merge m f = some m' → P m') :
    P m := by
  obtain ⟨fs, hfs, he⟩ := Option.bind_eq_some_iff.1 h
  have hparts : ∀ f ∈ fs, ∀ b, f.value = .bytes b → b <:+: src :=
    fun f hf b hv => readFields_parts hfs hf hv
  clear h hfs
  generalize S.empty = m₀ at h0 he
  induction fs generalizing m₀ with
  | nil =>
    cases he
    exact h0
  | cons f fs ih =>
    rw [List.foldlM_cons] at he
    obtain ⟨m₁, hm₁, he⟩ := Option.bind_eq_some_iff.1 he
    exact ih (fun g hg => hparts g (List.mem_cons_of_mem _ hg)) m₁
      (hm m₀ f m₁ h0 (hparts f (List.mem_cons_self ..)) hm₁) he

end Parts

def ofInt64 (x : Int64) : Value := .varint x.toUInt64.toNat

def toInt64 (n : Nat) : Int64 := (UInt64.ofNat n).toInt64

/-- Negative numbers are extended to 64 bits. -/
def ofInt32 (x : Int32) : Value := ofInt64 x.toInt64

def toInt32 (n : Nat) : Int32 := (toInt64 n).toInt32

def ofBool (b : Bool) : Value := .varint b.toNat

def toBool (n : Nat) : Bool := n != 0

def ofString (s : String) : Value := .bytes s.toByteArray.data.toList

/-- The text of valid UTF-8. -/
def readString (b : List UInt8) : Option String := String.fromUTF8? ⟨b.toArray⟩

@[simp] theorem toInt64_ofInt64 (x : Int64) : toInt64 x.toUInt64.toNat = x := by
  rw [toInt64, UInt64.ofNat_toNat, Int64.toInt64_toUInt64]

@[simp] theorem toInt32_ofInt32 (x : Int32) : toInt32 x.toInt64.toUInt64.toNat = x := by
  rw [toInt32, toInt64_ofInt64, Int32.toInt32_toInt64]

@[simp] theorem toBool_ofBool (b : Bool) : toBool b.toNat = b := by cases b <;> rfl

@[simp] theorem readString_ofString (s : String) :
    readString s.toByteArray.data.toList = some s := by
  have hb : (⟨s.toByteArray.data.toList.toArray⟩ : ByteArray) = s.toByteArray := rfl
  rw [readString, hb, String.fromUTF8?, dif_pos s.isValidUTF8]
  rfl

end Protobuf
