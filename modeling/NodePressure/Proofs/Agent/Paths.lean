import Mathlib.Data.List.TakeWhile
import NodePressure.Agent.Router

/-!
# NodePressure.Proofs.Agent.Paths - the path that an address names

A path stands between an origin, which may be missing, and a query or a fragment, which may be
missing, too (`Route.Names`). An address names at most one path, and it has a route exactly if that
is the path of the route (`Route.ofAddress?_eq_some_iff`).
-/

namespace NodePressure.Route

/-- What may stand before a path: nothing, or a scheme and a host. -/
def IsOrigin (s : List Char) : Prop :=
  s = [] ∨ ∃ scheme host, s = scheme ++ ':' :: '/' :: '/' :: host ∧
    (∀ c ∈ scheme, isSchemeChar c = true) ∧ ∀ c ∈ host, endsPart c = false

/-- A character that may stand in a path. -/
def isPathChar (c : Char) : Bool :=
  c != '?' && c != '#'

/-- An address names a path, which begins with a slash and ends where a query or a fragment begins,
or the address ends. -/
def Names (address path : String) : Prop :=
  ∃ origin behind, address.toList = origin ++ (path.toList ++ behind) ∧ IsOrigin origin ∧
    path.toList.head? = some '/' ∧ (∀ c ∈ path.toList, isPathChar c = true) ∧
    ∀ c ∈ behind.head?, isPathChar c = false

variable {origin s : List Char} {address path : String} {r : Route}

/-- An origin is passed over. -/
theorem place_append (h : IsOrigin origin) (hs : s.head? = some '/') : place (origin ++ s) = s := by
  obtain ⟨r, rfl⟩ : ∃ r, s = '/' :: r := by
    cases s with
    | nil => cases hs
    | cons c r => exact ⟨r, by rw [Option.some.inj hs]⟩
  rcases h with rfl | ⟨scheme, host, rfl, hscheme, hhost⟩
  · rfl
  · have hcut : (scheme ++ ':' :: '/' :: '/' :: host ++ '/' :: r).dropWhile isSchemeChar =
        ':' :: '/' :: '/' :: (host ++ '/' :: r) := by
      rw [List.append_assoc, List.dropWhile_append_of_pos hscheme]
      exact List.dropWhile_cons_of_neg (by decide)
    have hhost' : (host ++ '/' :: r).dropWhile (!endsPart ·) = '/' :: r := by
      rw [List.dropWhile_append_of_pos fun c hc => by rw [hhost c hc]; rfl]
      exact List.dropWhile_cons_of_neg (by decide)
    rw [place.eq_def]
    split
    · rename_i r' heq
      -- no scheme begins with a slash
      cases scheme with
      | nil => cases heq
      | cons c scheme =>
        obtain rfl := (List.cons.inj heq).1
        exact absurd (hscheme _ List.mem_cons_self) (by decide)
    · rw [hcut]
      exact hhost'

/-- What is left is what stands behind an origin. -/
theorem exists_origin (hs : (place s).head? = some '/') :
    ∃ origin, IsOrigin origin ∧ s = origin ++ place s := by
  rw [place.eq_def] at hs ⊢
  split at hs
  · exact ⟨[], .inl rfl, rfl⟩
  · split at hs
    · rename_i r hcut
      refine ⟨s.takeWhile isSchemeChar ++ ':' :: '/' :: '/' :: r.takeWhile (!endsPart ·),
        .inr ⟨_, _, rfl, fun c hc => List.mem_takeWhile_imp hc, fun c hc => ?_⟩, ?_⟩
      · simpa using List.mem_takeWhile_imp hc
      · have hscheme := List.takeWhile_append_dropWhile (p := isSchemeChar) (l := s)
        have hhost := List.takeWhile_append_dropWhile (p := (!endsPart ·)) (l := r)
        rw [List.append_assoc, List.cons_append, List.cons_append, List.cons_append, hhost, ← hcut,
          hscheme]
    · cases hs

/-- The path that an address is taken apart into. -/
def pathOf (address : String) : List Char :=
  (place address.toList).takeWhile isPathChar

theorem Names.pathOf_eq (h : Names address path) : pathOf address = path.toList := by
  obtain ⟨origin, behind, haddress, horigin, hslash, hpath, hbehind⟩ := h
  have hplace : place address.toList = path.toList ++ behind := by
    rw [haddress]
    exact place_append horigin (by rw [List.head?_append, hslash]; rfl)
  rw [pathOf, hplace, List.takeWhile_append_of_pos hpath]
  cases behind with
  | nil => exact List.append_nil _
  | cons c behind =>
    rw [List.takeWhile_cons_of_neg (by simpa using hbehind c rfl), List.append_nil]

theorem names_of_pathOf (h : pathOf address = path.toList)
    (hslash : path.toList.head? = some '/') : Names address path := by
  have hcut :
      path.toList ++ (place address.toList).dropWhile isPathChar = place address.toList := by
    rw [← h]
    exact List.takeWhile_append_dropWhile
  obtain ⟨origin, horigin, haddress⟩ := exists_origin (s := address.toList)
    (by rw [← hcut, List.head?_append, hslash]; rfl)
  refine ⟨origin, (place address.toList).dropWhile isPathChar, ?_, horigin, hslash, fun c hc => ?_,
    fun c hc => ?_⟩
  · rw [hcut]
    exact haddress
  · rw [← h] at hc
    exact List.mem_takeWhile_imp hc
  · have hfirst := List.head?_dropWhile_not isPathChar (place address.toList)
    rwa [hc] at hfirst

/-- An address names at most one path. -/
theorem Names.unique {path' : String} (h : Names address path) (h' : Names address path') :
    path = path' :=
  String.toList_inj.mp (h.pathOf_eq.symm.trans h'.pathOf_eq)

/-- The route of an address is the one whose path it names. -/
theorem ofAddress?_eq_some_iff : ofAddress? address = some r ↔ Names address r.path := by
  have hfind : ofAddress? address = all.find? (·.path == String.ofList (pathOf address)) := rfl
  constructor
  · intro h
    have hpath : r.path = String.ofList (pathOf address) := by
      rw [hfind] at h
      have hfound := List.find?_some h
      exact beq_iff_eq.mp hfound
    exact names_of_pathOf (by rw [hpath, String.toList_ofList]) (by cases r <;> decide)
  · intro h
    rw [hfind, h.pathOf_eq, String.ofList_toList]
    cases r <;> decide

theorem mem_paths_iff :
    path ∈ ["/healthz", "/readyz", "/metrics"] ↔ ∃ r : Route, r.path = path := by
  constructor
  · intro h
    simp only [List.mem_cons, List.not_mem_nil, or_false] at h
    rcases h with rfl | rfl | rfl
    · exact ⟨.health, rfl⟩
    · exact ⟨.readiness, rfl⟩
    · exact ⟨.metrics, rfl⟩
  · rintro ⟨r, rfl⟩
    cases r <;> decide

end NodePressure.Route
