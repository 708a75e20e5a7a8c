import AnyCable.Lib.JsonEncode

/-! # Decoding JSON into Go values

What `json.Unmarshal` does with a value it has checked: into a struct whose
fields are strings, booleans, `json.RawMessage` or `interface{}`, and into an
`interface{}`.

Into a struct, an object sets the fields its keys select and ignores the other
keys; a key selects the field of that exact name, or else the first whose name
equals it up to case folding. A value of the wrong JSON type for its field
leaves the field alone and is reported as an `UnmarshalTypeError` once decoding
has finished; only the first such error is kept, and decoding goes on. `null`
leaves a string or boolean field alone, and a `RawMessage` takes any value as it
is. A struct target takes `null` as no change, and any other non-object as a
type error.

Into an `interface{}`, a number becomes the float64 `strconv.ParseFloat` reads,
and one out of range is an `UnmarshalTypeError` for `float64`: nested, the
number becomes nil; alone, it leaves the target as it was. An object becomes a
map, in which a later duplicate key wins, and `json.Marshal` writes a map's keys
in sorted order. The value is kept as the JSON that `json.Marshal` writes for
it: a float64 in its shortest form, a map as an object with sorted, distinct
keys. Field names are ASCII, as all of the program's are.
-/

namespace GoJson
set_option autoImplicit false

def Json.kindName : Json → List Char
  | .null => ['n', 'u', 'l', 'l']
  | .bool _ => ['b', 'o', 'o', 'l']
  | .num _ => ['n', 'u', 'm', 'b', 'e', 'r']
  | .str _ => ['s', 't', 'r', 'i', 'n', 'g']
  | .arr _ => ['a', 'r', 'r', 'a', 'y']
  | .obj _ => ['o', 'b', 'j', 'e', 'c', 't']

/-- `*json.UnmarshalTypeError`: the JSON type met, the Go type wanted, and the
struct and field it was met in, if any. -/
structure UnmarshalTypeError where
  value : List Char
  goType : List Char
  structField : Option (List Char × List Char)
  deriving DecidableEq

/-- What `json.Unmarshal` returns: the `*json.SyntaxError` of `checkValid` for
malformed text, whose message is left out, or the first `UnmarshalTypeError`. -/
inductive JsonError where
  | malformed
  | unmarshalType (e : UnmarshalTypeError)
  deriving DecidableEq

/-! ## Go values -/

def keyLt : List Char → List Char → Bool
  | [], [] => false
  | [], _ :: _ => true
  | _ :: _, [] => false
  | a :: as, b :: bs => a.toNat < b.toNat || (a = b && keyLt as bs)

/-- `m[k] = v` in a map kept with its keys in order. -/
def insertKey (k : List Char) (v : Json) : List (List Char × Json) → List (List Char × Json)
  | [] => [(k, v)]
  | (k', v') :: ms =>
    if k = k' then (k, v) :: ms
    else if keyLt k k' then (k, v) :: (k', v') :: ms
    else (k', v') :: insertKey k v ms

def anyNumber (lexeme : List Char) : Json :=
  match Strconv.parseFloat lexeme with
  | some f => .num (floatEncoder f)
  | none => .null

mutual
def toAny : Json → Json
  | .num lexeme => anyNumber lexeme
  | .arr vs => .arr (toAnyItems vs)
  | .obj ms => .obj (toAnyMembers ms [])
  | j => j

def toAnyItems : List Json → List Json
  | [] => []
  | v :: vs => toAny v :: toAnyItems vs

def toAnyMembers : List (List Char × Json) → List (List Char × Json) → List (List Char × Json)
  | [], acc => acc
  | (k, v) :: ms, acc => toAnyMembers ms (insertKey k (toAny v) acc)
end

mutual
def Json.numbers : Json → List (List Char)
  | .num lexeme => [lexeme]
  | .arr vs => itemsNumbers vs
  | .obj ms => membersNumbers ms
  | _ => []

def itemsNumbers : List Json → List (List Char)
  | [] => []
  | v :: vs => v.numbers ++ itemsNumbers vs

def membersNumbers : List (List Char × Json) → List (List Char)
  | [] => []
  | (_, v) :: ms => v.numbers ++ membersNumbers ms
end

def rangeError (j : Json) : Option (List Char) :=
  j.numbers.find? fun lexeme => (Strconv.parseFloat lexeme).isNone

theorem lookup_cons_ite (a k : List Char) (b : Json) (l : List (List Char × Json)) :
    ((a, b) :: l).lookup k = if k = a then some b else l.lookup k := by
  rw [List.lookup_cons]
  by_cases hKey : k = a
  · subst hKey
    simp
  · rw [show (k == a) = false from beq_eq_false_iff_ne.mpr hKey, if_neg hKey]

theorem lookup_insertKey (k : List Char) (v : Json) :
    ∀ (ms : List (List Char × Json)) (k' : List Char),
      (insertKey k v ms).lookup k' = if k' = k then some v else ms.lookup k'
  | [], k' => by
    rw [insertKey, lookup_cons_ite]
  | (k₀, v₀) :: ms, k' => by
    unfold insertKey
    by_cases hEq : k = k₀
    · subst hEq
      rw [if_pos rfl, lookup_cons_ite, lookup_cons_ite]
      by_cases hKey : k' = k <;> simp [hKey]
    · rw [if_neg hEq]
      by_cases hLt : keyLt k k₀ = true
      · rw [if_pos hLt, lookup_cons_ite, lookup_cons_ite]
      · rw [if_neg hLt, lookup_cons_ite, lookup_insertKey k v ms k', lookup_cons_ite]
        by_cases hKey : k' = k
        · subst hKey
          simp [hEq]
        · simp [hKey]

theorem insertKey_wellFormed (k : List Char) {v : Json} (hv : v.wellFormed) :
    ∀ {ms : List (List Char × Json)}, membersWellFormed ms → membersWellFormed (insertKey k v ms)
  | [], _ => by simp [insertKey, membersWellFormed, hv]
  | (k', v') :: ms, h => by
    simp only [membersWellFormed, Bool.and_eq_true] at h
    obtain ⟨hv', hms⟩ := h
    unfold insertKey
    split_ifs
    · simp [membersWellFormed, hv, hms]
    · simp [membersWellFormed, hv, hv', hms]
    · simp [membersWellFormed, hv', insertKey_wellFormed k hv hms]

mutual
theorem toAny_wellFormed : ∀ v : Json, v.wellFormed → (toAny v).wellFormed
  | .null, _ => rfl
  | .bool _, _ => rfl
  | .num lexeme, _ => by
    simp only [toAny, anyNumber]
    split
    · exact floatEncoder_wellFormed _
    · rfl
  | .str _, _ => rfl
  | .arr vs, h => by
    simp only [toAny, Json.wellFormed] at h ⊢
    exact toAnyItems_wellFormed vs h
  | .obj ms, h => by
    simp only [toAny, Json.wellFormed] at h ⊢
    exact toAnyMembers_wellFormed ms [] h rfl

theorem toAnyItems_wellFormed : ∀ vs : List Json, itemsWellFormed vs → itemsWellFormed (toAnyItems vs)
  | [], _ => rfl
  | v :: vs, h => by
    simp only [itemsWellFormed, Bool.and_eq_true] at h
    simp only [toAnyItems, itemsWellFormed, toAny_wellFormed v h.1, toAnyItems_wellFormed vs h.2,
      Bool.and_self]

theorem toAnyMembers_wellFormed : ∀ ms acc : List (List Char × Json),
    membersWellFormed ms → membersWellFormed acc → membersWellFormed (toAnyMembers ms acc)
  | [], _, _, hAcc => hAcc
  | (k, v) :: ms, acc, h, hAcc => by
    simp only [membersWellFormed, Bool.and_eq_true] at h
    rw [toAnyMembers]
    exact toAnyMembers_wellFormed ms _ h.2 (insertKey_wellFormed k (toAny_wellFormed v h.1) hAcc)
end

/-! ## Struct fields -/

inductive Kind where
  | string
  | bool
  | raw
  | any
  deriving DecidableEq

@[reducible] def Kind.Carrier : Kind → Type
  | .string => List Char
  | .bool => Bool
  | .raw => Json
  | .any => Json

def numberError (lexeme : List Char) : List Char × List Char :=
  ("number ".toList ++ lexeme, "float64".toList)

def Kind.store : (k : Kind) → Json → Option k.Carrier × Option (List Char × List Char)
  | .string, .str s => (some s, none)
  | .string, .null => (none, none)
  | .string, j => (none, some (j.kindName, "string".toList))
  | .bool, .bool b => (some b, none)
  | .bool, .null => (none, none)
  | .bool, j => (none, some (j.kindName, "bool".toList))
  | .raw, j => (some j, none)
  | .any, .num lexeme =>
    match Strconv.parseFloat lexeme with
    | some f => (some (.num (floatEncoder f)), none)
    | none => (none, some (numberError lexeme))
  | .any, j => (some (toAny j), (rangeError j).map numberError)

structure Field (R : Type) where
  name : List Char
  kind : Kind
  write : kind.Carrier → R → R

def foldChar (n c : Char) : Bool :=
  n == c || (n.isAlpha && n.toUpper == c.toUpper) ||
    ((n == 's' || n == 'S') && c == '\u017F') || ((n == 'k' || n == 'K') && c == '\u212A')

def foldEq : List Char → List Char → Bool
  | [], [] => true
  | n :: ns, c :: cs => foldChar n c && foldEq ns cs
  | _, _ => false

variable {R : Type}

def findField (fields : List (Field R)) (key : List Char) : Option (Field R) :=
  match fields.find? (fun f => f.name == key) with
  | some f => some f
  | none => fields.find? (fun f => foldEq f.name key)

def storeMember (structName : List Char) (fields : List (Field R))
    (acc : R × Option UnmarshalTypeError) (m : List Char × Json) : R × Option UnmarshalTypeError :=
  match findField fields m.1 with
  | none => acc
  | some f =>
    (match (f.kind.store m.2).1 with
      | some x => f.write x acc.1
      | none => acc.1,
      acc.2.or ((f.kind.store m.2).2.map fun e => ⟨e.1, e.2, some (structName, f.name)⟩))

def decodeStruct (structName goType : List Char) (fields : List (Field R)) (r : R) :
    Json → R × Option UnmarshalTypeError
  | .null => (r, none)
  | .obj ms => ms.foldl (storeMember structName fields) (r, none)
  | j => (r, some ⟨j.kindName, goType, none⟩)

@[simp] theorem store_string_str (t : List Char) : Kind.string.store (.str t) = (some t, none) := rfl

theorem anyNumber_of_parseFloat {lexeme : List Char} {f : Strconv.Float64}
    (h : Strconv.parseFloat lexeme = some f) : anyNumber lexeme = .num (floatEncoder f) := by
  rw [anyNumber, h]

theorem store_any_of_rangeError {j : Json} (h : rangeError j = none) :
    Kind.any.store j = (some (toAny j), none) := by
  cases j with
  | num lexeme =>
    have hSome : Strconv.parseFloat lexeme ≠ none := by
      simpa [rangeError, Json.numbers] using h
    obtain ⟨f, hf⟩ := Option.ne_none_iff_exists'.mp hSome
    simp only [Kind.store, hf, toAny, anyNumber_of_parseFloat hf]
  | _ =>
    show (some (toAny _), (rangeError _).map numberError) = _
    rw [h]
    rfl

theorem store_any_error_of_rangeError {j : Json} {lexeme : List Char} (h : rangeError j = some lexeme) :
    (Kind.any.store j).2 = some (numberError lexeme) := by
  cases j with
  | num l =>
    by_cases hNone : Strconv.parseFloat l = none
    · have hl : l = lexeme := by simpa [rangeError, Json.numbers, hNone] using h
      subst hl
      simp [Kind.store, hNone]
    · simp [rangeError, Json.numbers, hNone] at h
  | _ => simp [Kind.store, h]

end GoJson
