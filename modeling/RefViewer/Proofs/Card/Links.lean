import RefViewer.Card.Address
import Mathlib.Data.List.Basic

/-!
# Reading addresses

A reader of addresses that knows nothing of how they were written: it cuts an address at the
separators that are the same for all pages and takes the percent signs out of the parts.
`entry_read`: it finds the page by the names that the address was made of, so each page has an
address of its own, whatever characters its names have.
-/

namespace RefViewer.Address

inductive Page where
  | member (className name : String)
  | enumType (name : String)
  deriving DecidableEq, Repr

-- ---------------------------------------------------------------------------
-- The reader
-- ---------------------------------------------------------------------------

def hexValue? (c : Char) : Option Nat :=
  if '0' ≤ c ∧ c ≤ '9' then some (c.toNat - 48)
  else if 'A' ≤ c ∧ c ≤ 'F' then some (c.toNat - 55)
  else if 'a' ≤ c ∧ c ≤ 'f' then some (c.toNat - 87)
  else none

/-- Two digits behind a percent sign are one byte, and every other character of ASCII is one as
well. -/
def decodeBytes? : List Char → Option (List UInt8)
  | [] => some []
  | '%' :: rest =>
    match rest with
    | high :: low :: rest => do
      let high ← hexValue? high
      let low ← hexValue? low
      let bytes ← decodeBytes? rest
      return .ofNat (16 * high + low) :: bytes
    | _ => none
  | c :: rest =>
    if c.toNat < 128 then (decodeBytes? rest).map (.ofNat c.toNat :: ·) else none

def decode? (text : List Char) : Option String := do
  let bytes ← decodeBytes? text
  String.fromUTF8? bytes.toByteArray

def cutAt? (separator : List Char) : List Char → Option (List Char × List Char)
  | [] => none
  | c :: rest =>
    match (c :: rest).dropPrefix? separator with
    | some behind => some ([], behind)
    | none => (cutAt? separator rest).map fun (before, behind) => (c :: before, behind)

def read? (address : String) : Option Page := do
  let path ← address.toList.dropPrefix? base.toList
  match path.dropPrefix? "/class/".toList with
  | some names =>
    let (className, name) ← cutAt? "#member-".toList names
    return .member (← decode? className) (← decode? name)
  | none =>
    let name ← path.dropPrefix? "/enum/".toList
    return .enumType (← decode? name)

-- ---------------------------------------------------------------------------
-- Bytes
-- ---------------------------------------------------------------------------

theorem toList_loop (bytes : ByteArray) (i : Nat) (done : List UInt8) :
    ByteArray.toList.loop bytes i done = done.reverse ++ bytes.data.toList.drop i := by
  induction i, done using ByteArray.toList.loop.induct bytes with
  | case1 i done hlt ih =>
    have hi : i < bytes.data.toList.length := by simpa using hlt
    have hget : bytes.get! i = bytes.data.toList[i] := by
      rw [ByteArray.get!, getElem!_pos bytes.data i (by simpa using hlt), Array.getElem_toList]
    rw [ByteArray.toList.loop, if_pos hlt, ih, List.drop_eq_getElem_cons hi, hget]
    simp
  | case2 i done hge =>
    have hle : bytes.data.toList.length ≤ i := by simpa using hge
    rw [ByteArray.toList.loop, if_neg hge, List.drop_eq_nil_of_le hle, List.append_nil]

theorem toByteArray_toList (bytes : ByteArray) : bytes.toList.toByteArray = bytes := by
  rw [ByteArray.toList, toList_loop]
  apply ByteArray.ext
  simp

theorem fromUTF8?_toUTF8 (name : String) : String.fromUTF8? name.toUTF8 = some name := by
  simp [String.fromUTF8?, String.toUTF8, String.fromUTF8, name.isValidUTF8]

theorem hexValue?_hexDigit : ∀ n < 16, hexValue? (hexDigit n) = some n := by
  decide

theorem isPlain_cases : ∀ n < 256, isPlain (.ofNat n) = true →
    (Char.ofNat n).toNat = n ∧ n < 128 ∧ Char.ofNat n ≠ '%' ∧ Char.ofNat n ≠ '#' := by
  decide +kernel

theorem plain_char (h : isPlain byte = true) :
    (Char.ofNat byte.toNat).toNat = byte.toNat ∧ byte.toNat < 128 ∧
      Char.ofNat byte.toNat ≠ '%' ∧ Char.ofNat byte.toNat ≠ '#' :=
  isPlain_cases byte.toNat byte.toNat_lt (by rwa [UInt8.ofNat_toNat])

theorem decodeBytes?_cons (hc : c ≠ '%') (rest : List Char) :
    decodeBytes? (c :: rest) =
      if c.toNat < 128 then (decodeBytes? rest).map (.ofNat c.toNat :: ·) else none := by
  rw [decodeBytes?.eq_def]
  split <;> simp_all

theorem decodeBytes?_encodeByte (byte : UInt8) (rest : List Char) :
    decodeBytes? (encodeByte byte ++ rest) = (decodeBytes? rest).map (byte :: ·) := by
  unfold encodeByte
  split
  · next hplain =>
    obtain ⟨hvalue, hascii, hpercent, -⟩ := plain_char hplain
    rw [List.singleton_append, decodeBytes?_cons hpercent, hvalue, if_pos hascii,
      UInt8.ofNat_toNat]
  · have hbyte : byte.toNat < 256 := byte.toNat_lt
    have hhigh := hexValue?_hexDigit (byte.toNat / 16) (by omega)
    have hlow := hexValue?_hexDigit (byte.toNat % 16) (by omega)
    have hsum : 16 * (byte.toNat / 16) + byte.toNat % 16 = byte.toNat := Nat.div_add_mod _ _
    simp only [List.cons_append, List.nil_append, decodeBytes?, hhigh, hlow,
      Option.bind_eq_bind, Option.bind_some, hsum, UInt8.ofNat_toNat]
    cases decodeBytes? rest <;> rfl

theorem decode?_encode (name : String) : decode? (encode name).toList = some name := by
  have hbytes (bytes : List UInt8) : decodeBytes? (bytes.flatMap encodeByte) = some bytes := by
    induction bytes with
    | nil => rfl
    | cons byte rest ih => rw [List.flatMap_cons, decodeBytes?_encodeByte, ih, Option.map_some]
  rw [encode, String.toList_ofList, decode?, hbytes]
  simp only [Option.bind_eq_bind, Option.bind_some, toByteArray_toList, fromUTF8?_toUTF8]

-- ---------------------------------------------------------------------------
-- Separators
-- ---------------------------------------------------------------------------

theorem encode_noMark (hc : c ∈ (encode name).toList) : c ≠ '#' := by
  simp only [encode, String.toList_ofList, List.mem_flatMap] at hc
  obtain ⟨byte, -, hc⟩ := hc
  unfold encodeByte at hc
  split at hc
  · next hplain =>
    obtain rfl := List.mem_singleton.mp hc
    exact (plain_char hplain).2.2.2
  · have hdigit : ∀ n < 16, hexDigit n ≠ '#' := by decide
    have hbyte : byte.toNat < 256 := byte.toNat_lt
    simp only [List.mem_cons, List.not_mem_nil, or_false] at hc
    rcases hc with rfl | rfl | rfl
    · decide
    · exact hdigit _ (by omega)
    · exact hdigit _ (by omega)

theorem dropPrefix?_append (front rest : List Char) :
    (front ++ rest).dropPrefix? front = some rest :=
  List.dropPrefix?_append_of_beq rest (beq_self_eq_true front)

/-- The first place of a separator is behind the characters that it does not begin with. -/
theorem cutAt?_append (hf : ∀ c ∈ front, c ≠ mark) (more rest : List Char) :
    cutAt? (mark :: more) (front ++ (mark :: more ++ rest)) = some (front, rest) := by
  induction front with
  | nil =>
    have hhere := dropPrefix?_append (mark :: more) rest
    rw [List.cons_append] at hhere
    simp only [List.nil_append, List.cons_append, cutAt?, hhere]
  | cons c front ih =>
    obtain ⟨hc, hfront⟩ := List.forall_mem_cons.mp hf
    have hnone : (c :: (front ++ (mark :: more ++ rest))).dropPrefix? (mark :: more) = none := by
      simp [List.dropPrefix?, hc]
    rw [List.cons_append, cutAt?, hnone, ih hfront]
    rfl

-- ---------------------------------------------------------------------------
-- Addresses
-- ---------------------------------------------------------------------------

theorem read?_member (m : Member) : read? (member m) = some (.member m.className m.name) := by
  have hchars : (member m).toList = base.toList ++ ("/class/".toList ++
      ((encode m.className).toList ++ ("#member-".toList ++ (encode m.name).toList))) := by
    simp only [member, String.toList_append, List.append_assoc]
  have hcut : cutAt? "#member-".toList
      ((encode m.className).toList ++ ("#member-".toList ++ (encode m.name).toList)) =
        some ((encode m.className).toList, (encode m.name).toList) :=
    cutAt?_append (fun _ hc => encode_noMark hc) "member-".toList _
  rw [read?, hchars, dropPrefix?_append]
  simp only [Option.bind_eq_bind, Option.bind_some, dropPrefix?_append, hcut, decode?_encode]
  rfl

theorem read?_enumType (e : EnumType) : read? (enumType e) = some (.enumType e.name) := by
  have hchars : (enumType e).toList =
      base.toList ++ ("/enum/".toList ++ (encode e.name).toList) := by
    simp only [enumType, String.toList_append, List.append_assoc]
  have hclass : ("/enum/".toList ++ (encode e.name).toList).dropPrefix? "/class/".toList = none :=
    rfl
  rw [read?, hchars, dropPrefix?_append]
  simp only [Option.bind_eq_bind, Option.bind_some, dropPrefix?_append, hclass, decode?_encode]
  rfl

def page : Entry → Page
  | .member m => .member m.className m.name
  | .enumType e => .enumType e.name

theorem read?_entry (target : Entry) : read? (entry target) = some (page target) := by
  cases target with
  | member m => exact read?_member m
  | enumType e => exact read?_enumType e

/-- An address is cut at its separators into the names that it was made of, so members have the
same address exactly when their names and those of their classes agree, enums exactly when their
names agree, and no member has the address of an enum. -/
theorem entry_read :
    (∀ target, read? (entry target) = some (page target)) ∧
    (∀ m n : Member, member m = member n ↔ m.className = n.className ∧ m.name = n.name) ∧
    (∀ e f : EnumType, enumType e = enumType f ↔ e.name = f.name) ∧
    ∀ (m : Member) (e : EnumType), member m ≠ enumType e := by
  refine ⟨read?_entry, ?_, ?_, ?_⟩
  · intro m n
    constructor
    · intro h
      have hread := read?_member m
      rw [h, read?_member n] at hread
      simpa [eq_comm] using hread
    · rintro ⟨hclass, hname⟩
      rw [member, member, hclass, hname]
  · intro e f
    constructor
    · intro h
      have hread := read?_enumType e
      rw [h, read?_enumType f] at hread
      simpa [eq_comm] using hread
    · intro hname
      rw [enumType, enumType, hname]
  · intro m e h
    have hread := read?_member m
    rw [h, read?_enumType e] at hread
    cases hread

end RefViewer.Address
