import KitchenSync.PostgreSQL.Conversions
import KitchenSync.PostgreSQL.TypeRoundTrip

/-!
# Reading fields as C does

`PostgreSQLRow` reads a field of a text-format result through the C string `result_at`
points to: `bool_at` compares it with `t`, and `int_at` and `uint_at` convert it with
`strtoll` and `strtoull`, modelled here from the C standard. Each conversion reads back the
decimal text PostgreSQL writes for a number in its range, so the OIDs of the type query
reach the type map unchanged.
-/

namespace KitchenSync

/-- The C string `result_at` points to: the field up to its first NUL. -/
def cString (value : String) : List Char := value.data.takeWhile (· ≠ '\x00')

/-- `isspace` in the C locale. -/
def isSpace (c : Char) : Bool :=
  c == ' ' || c == '\t' || c == '\n' || c == '\x0b' || c == '\x0c' || c == '\r'

/-- What `strtoll` and `strtoull` read before the digits: white space, then an optional
sign. Whether the sign is a minus, and the text after it. -/
def readSign (text : List Char) : Bool × List Char :=
  match text.dropWhile isSpace with
  | '-' :: digits => (true, digits)
  | '+' :: digits => (false, digits)
  | digits => (false, digits)

/-- `LLONG_MIN`. -/
def llongMin : ℤ := -2 ^ 63

/-- `LLONG_MAX`. -/
def llongMax : ℤ := 2 ^ 63 - 1

/-- `ULLONG_MAX`. -/
def ullongMax : ℕ := 2 ^ 64 - 1

/-- `strtoll(text, nullptr, 10)`: the sign, then the decimal digits that follow; a value
out of range is the nearest `long long`. -/
def strtoll (text : List Char) : ℤ :=
  let sign := readSign text
  if sign.1 then max (-(readNumber sign.2 : ℤ)) llongMin
  else min (readNumber sign.2 : ℤ) llongMax

/-- `strtoull(text, nullptr, 10)`: the sign, then the decimal digits that follow; a value
out of range is `ULLONG_MAX`, and after a minus sign one in range is negated modulo
`2 ^ 64`. -/
def strtoull (text : List Char) : ℕ :=
  let sign := readSign text
  if readNumber sign.2 ≤ ullongMax then
    if sign.1 then (2 ^ 64 - readNumber sign.2) % 2 ^ 64 else readNumber sign.2
  else ullongMax

/-- `PostgreSQLRow::bool_at`: `strcmp(result_at(column_number), "t") == 0`. -/
def boolAt (value : String) : Bool := cString value == ['t']

/-- `PostgreSQLRow::int_at`: `strtoll(result_at(column_number), nullptr, 10)`. -/
def intAt (value : String) : ℤ := strtoll (cString value)

/-- `PostgreSQLRow::uint_at`: `strtoull(result_at(column_number), nullptr, 10)`. -/
def uintAt (value : String) : ℕ := strtoull (cString value)

/-! ### Numbers read back -/

/-- A text with no `'\0'` is read as a C string whole. -/
theorem cString_of_forall_ne {value : String} (h : ∀ c ∈ value.data, c ≠ '\x00') :
    cString value = value.data :=
  List.takeWhile_eq_self_iff.mpr fun c hc => decide_eq_true (h c hc)

/-- A number written by `to_string` has no `'\0'`. -/
theorem ne_nul_of_mem_toString {n : ℕ} : ∀ c ∈ (toString n).data, c ≠ '\x00' :=
  fun c hc hnul => absurd (hnul ▸ isDigit_of_mem_toString c hc) (by decide)

/-- A whole `to_string` numeral reads back as its number. -/
theorem readNumber_toString_self (n : ℕ) : readNumber (toString n).data = n := by
  rw [readNumber, List.takeWhile_eq_self_iff.mpr isDigit_of_mem_toString]
  exact foldl_digitStep_toDigitsCore _ _ _ (by omega)

/-- Decimal digits have no white space or sign before them. -/
theorem readSign_of_digits {digits : List Char} (hdigits : ∀ c ∈ digits, c.isDigit = true) :
    readSign digits = (false, digits) := by
  cases digits with
  | nil => rfl
  | cons c rest =>
    have hc := hdigits c (List.mem_cons_self _ _)
    have hspace : isSpace c = false := by
      by_contra h
      simp only [isSpace, Bool.not_eq_false, Bool.or_eq_true, beq_iff_eq] at h
      rcases h with (((((rfl | rfl) | rfl) | rfl) | rfl) | rfl) <;> exact absurd hc (by decide)
    rw [readSign, List.dropWhile_cons_of_neg (by simp [hspace])]
    split
    · next heq => exact absurd (List.cons.inj heq).1 fun h => absurd (h ▸ hc) (by decide)
    · next heq => exact absurd (List.cons.inj heq).1 fun h => absurd (h ▸ hc) (by decide)
    · rfl

/-- **`int_at` reads back PostgreSQL's integers.** The decimal text PostgreSQL writes for an
integer in the range of `int64_t` is read by `int_at` as that integer. -/
theorem intAt_toString {n : ℤ} (hmin : llongMin ≤ n) (hmax : n ≤ llongMax) :
    intAt (toString n) = n := by
  cases n with
  | ofNat m =>
    show strtoll (cString (toString m)) = m
    rw [cString_of_forall_ne ne_nul_of_mem_toString, strtoll,
      readSign_of_digits isDigit_of_mem_toString, readNumber_toString_self]
    exact min_eq_left hmax
  | negSucc m =>
    show strtoll (cString ⟨'-' :: (toString (m + 1)).data⟩) = _
    rw [cString_of_forall_ne (List.forall_mem_cons.mpr ⟨by decide, ne_nul_of_mem_toString⟩)]
    show max (-(readNumber (toString (m + 1)).data : ℤ)) llongMin = _
    rw [Int.negSucc_eq] at hmin ⊢
    rw [readNumber_toString_self]
    exact max_eq_left hmin

/-- `uint_at` reads back the decimal text PostgreSQL writes for a number in the range of
`uint64_t`. -/
theorem uintAt_toString {n : ℕ} (hmax : n ≤ ullongMax) : uintAt (toString n) = n := by
  rw [uintAt, cString_of_forall_ne ne_nul_of_mem_toString, strtoull,
    readSign_of_digits isDigit_of_mem_toString, readNumber_toString_self, if_pos hmax]
  rfl

/-! ### The type query's rows -/

/-- The row `PostgreSQLTypeMapCollector` reads: `uint_at(0)`, and `string_at(1)`. -/
def PostgreSQLTypeMapCollector.typeRow (oid typname : String) : TypeRow := ⟨uintAt oid, typname⟩

/-- **The type map holds the OIDs the type query lists.** Read from rows in which PostgreSQL
writes each OID in decimal, the map gains exactly the OIDs of the rows named `geometry`: an
OID, below `2 ^ 32`, is neither misread nor cut by the `uint32_t` it is stored in. -/
theorem mem_collectTypeMap_typeRow (typeMap : TypeMap) (rows : List (ℕ × String))
    (hoids : ∀ row ∈ rows, row.1 < 2 ^ 32) (typid : ℕ) :
    typid ∈ (PostgreSQLClient.collectTypeMap typeMap
        (rows.map fun row => PostgreSQLTypeMapCollector.typeRow (toString row.1) row.2)).geometry ↔
      typid ∈ typeMap.geometry ∨ (typid, "geometry") ∈ rows := by
  have hread : ∀ row ∈ rows,
      (PostgreSQLTypeMapCollector.typeRow (toString row.1) row.2).oid % 2 ^ 32 = row.1 :=
    fun row hrow => by
      have hlt := hoids row hrow
      rw [PostgreSQLTypeMapCollector.typeRow, uintAt_toString (by unfold ullongMax; omega),
        Nat.mod_eq_of_lt hlt]
  rw [mem_collectTypeMap_geometry]
  refine or_congr_right ⟨?_, fun hmem => ⟨_, List.mem_map_of_mem _ hmem, rfl, hread _ hmem⟩⟩
  rintro ⟨_, hrow, hname, rfl⟩
  obtain ⟨row, hmem, rfl⟩ := List.mem_map.mp hrow
  rw [hread row hmem, ← show row.2 = "geometry" from hname]
  exact hmem

/-- The type query lists PostGIS's `geometry` at OID `16400`. -/
theorem mem_collectTypeMap_typeRow_postgis :
    (∀ row ∈ [((16400 : ℕ), "geometry")], row.1 < 2 ^ 32) ∧
    (16400 ∈ (PostgreSQLClient.collectTypeMap ⟨∅⟩
        ([((16400 : ℕ), "geometry")].map fun row =>
          PostgreSQLTypeMapCollector.typeRow (toString row.1) row.2)).geometry ↔
      16400 ∈ (⟨∅⟩ : TypeMap).geometry ∨ ((16400 : ℕ), "geometry") ∈ [((16400 : ℕ), "geometry")]) :=
  have hoids : ∀ row ∈ [((16400 : ℕ), "geometry")], row.1 < 2 ^ 32 := by decide
  ⟨hoids, mem_collectTypeMap_typeRow ⟨∅⟩ _ hoids 16400⟩

end KitchenSync
