import AnyCable.Lib.Unicode
import Mathlib.Data.List.Infix

/-! # The origin check of the WebSocket handler

`CheckOrigin(origins)` (`ws/handler.go`) splits the lower-cased `origins` at
every comma, and for each request lower-cases the `Origin` header, parses it
with `url.Parse` and compares its host with the entries in turn: an entry whose
first byte is `*` matches every host ending with the rest of the entry, and any
entry matches a host equal to it.

Text is a list of characters, `strings.ToLower` lower-cases with the case
table `unicode.CaseRanges`, a parameter, and `url.Parse` followed by `.Host` is
a parameter `parse`, an error being a parse failure. A Go panic is an `.error`
result.

The loop reads `host[0]` of every entry it reaches, and an empty entry, left by
a stray comma, has no byte 0 (`checkOrigin_panics_on_empty_entry`). Without
empty entries the check is exactly a suffix-or-equal test
(`checkOrigin_of_no_empty_entry`), so `*evilmartians.io` also admits
`notevilmartians.io`.
-/

namespace AnyCable.Ws
set_option autoImplicit false

def indexPanic : String := "runtime error: index out of range [0] with length 0"

def matchHosts (host : List Char) : List (List Char) → Except String Bool
  | [] => .ok false
  | [] :: _ => .error indexPanic
  | (c :: rest) :: hosts =>
    if c = '*' ∧ rest <:+ host then .ok true
    else if host = c :: rest then .ok true
    else matchHosts host hosts

/-- `CheckOrigin(origins)` on a request whose `Origin` header is `origin`. -/
def checkOrigin (caseRanges : List GoUnicode.CaseRange) (parse : List Char → Except String (List Char))
    (origins origin : List Char) : Except String Bool :=
  if origins = [] then .ok true
  else
    match parse (GoStrings.toLower caseRanges origin) with
    | .error _ => .ok false
    | .ok host => matchHosts host ((GoStrings.toLower caseRanges origins).splitOn ',')

def entryMatches (host entry : List Char) : Bool :=
  match entry with
  | [] => false
  | c :: rest => decide (c = '*' ∧ rest <:+ host) || decide (host = c :: rest)

theorem matchHosts_cons (host : List Char) (c : Char) (rest : List Char) (hosts : List (List Char)) :
    matchHosts host ((c :: rest) :: hosts) =
      if entryMatches host (c :: rest) then .ok true else matchHosts host hosts := by
  rw [matchHosts]
  unfold entryMatches
  by_cases hStar : c = '*' ∧ rest <:+ host <;> by_cases hEq : host = c :: rest <;> simp [hStar, hEq]

theorem matchHosts_of_no_empty (host : List Char) (hosts : List (List Char)) (hNo : [] ∉ hosts) :
    matchHosts host hosts = .ok (hosts.any (entryMatches host)) := by
  induction hosts with
  | nil => rfl
  | cons entry hosts ih =>
    cases entry with
    | nil => simp at hNo
    | cons c rest =>
      rw [matchHosts_cons, ih (fun h => hNo (List.mem_cons_of_mem _ h))]
      by_cases hMatch : entryMatches host (c :: rest) <;> simp [hMatch]

theorem matchHosts_append_empty (host : List Char) (pre post : List (List Char))
    (hMiss : pre.any (entryMatches host) = false) :
    matchHosts host (pre ++ [] :: post) = .error indexPanic := by
  induction pre with
  | nil => rfl
  | cons entry pre ih =>
    simp only [List.any_cons, Bool.or_eq_false_iff] at hMiss
    cases entry with
    | nil => rfl
    | cons c rest => rw [List.cons_append, matchHosts_cons, if_neg (by simp [hMiss.1]), ih hMiss.2]

/-- A request whose host matches no entry before an empty one makes the check
index byte 0 of the empty entry, and panic. -/
theorem checkOrigin_panics_on_empty_entry (caseRanges : List GoUnicode.CaseRange)
    (parse : List Char → Except String (List Char)) (origins origin host : List Char)
    (pre post : List (List Char)) (hOrigins : origins ≠ [])
    (hParse : parse (GoStrings.toLower caseRanges origin) = .ok host)
    (hSplit : (GoStrings.toLower caseRanges origins).splitOn ',' = pre ++ [] :: post)
    (hMiss : pre.any (entryMatches host) = false) :
    checkOrigin caseRanges parse origins origin = .error indexPanic := by
  unfold checkOrigin
  rw [if_neg hOrigins, hParse]
  dsimp only
  rw [hSplit, matchHosts_append_empty host pre post hMiss]

theorem checkOrigin_panics_on_trailing_comma :
    "a.com,".toList ≠ [] ∧
      (fun _ => .ok "b.com".toList : List Char → Except String (List Char))
          (GoStrings.toLower GoUnicode.latinCaseRanges "http://b.com".toList) = .ok "b.com".toList ∧
      (GoStrings.toLower GoUnicode.latinCaseRanges "a.com,".toList).splitOn ',' = ["a.com".toList] ++ [] :: [] ∧
      ["a.com".toList].any (entryMatches "b.com".toList) = false ∧
      checkOrigin GoUnicode.latinCaseRanges (fun _ => .ok "b.com".toList) "a.com,".toList
          "http://b.com".toList = .error indexPanic :=
  ⟨by decide, rfl, by decide +kernel, by decide,
    checkOrigin_panics_on_empty_entry _ _ _ _ _ ["a.com".toList] [] (by decide) rfl (by decide +kernel)
      (by decide)⟩

/-- With no empty entry, the check never panics, and it accepts a parsed host
exactly when some entry equals it or is `*` followed by a suffix of it. -/
theorem checkOrigin_of_no_empty_entry (caseRanges : List GoUnicode.CaseRange)
    (parse : List Char → Except String (List Char)) (origins origin host : List Char) (hOrigins : origins ≠ [])
    (hNo : [] ∉ (GoStrings.toLower caseRanges origins).splitOn ',')
    (hParse : parse (GoStrings.toLower caseRanges origin) = .ok host) :
    checkOrigin caseRanges parse origins origin =
      .ok (((GoStrings.toLower caseRanges origins).splitOn ',').any (entryMatches host)) := by
  unfold checkOrigin
  rw [if_neg hOrigins, hParse]
  exact matchHosts_of_no_empty host _ hNo

theorem checkOrigin_of_no_empty_entry_muenchen :
    "MÜNCHEN.de,*evilmartians.io".toList ≠ [] ∧
      [] ∉ (GoStrings.toLower GoUnicode.latinCaseRanges "MÜNCHEN.de,*evilmartians.io".toList).splitOn ',' ∧
      (fun _ => .ok "münchen.de".toList : List Char → Except String (List Char))
        (GoStrings.toLower GoUnicode.latinCaseRanges "http://münchen.de".toList) = .ok "münchen.de".toList ∧
      checkOrigin GoUnicode.latinCaseRanges (fun _ => .ok "münchen.de".toList)
          "MÜNCHEN.de,*evilmartians.io".toList "http://münchen.de".toList =
        .ok (((GoStrings.toLower GoUnicode.latinCaseRanges "MÜNCHEN.de,*evilmartians.io".toList).splitOn ',').any
          (entryMatches "münchen.de".toList)) :=
  ⟨by decide, by decide +kernel, rfl,
    checkOrigin_of_no_empty_entry _ _ _ _ _ (by decide) (by decide +kernel) rfl⟩

example : checkOrigin GoUnicode.latinCaseRanges (fun _ => .ok "münchen.de".toList) "MÜNCHEN.de,".toList
    "http://münchen.de".toList = .ok true := by
  decide +kernel

example : checkOrigin GoUnicode.latinCaseRanges (fun _ => .ok "notevilmartians.io".toList)
    "*evilmartians.io".toList "http://notevilmartians.io".toList = .ok true := by
  decide +kernel

end AnyCable.Ws
