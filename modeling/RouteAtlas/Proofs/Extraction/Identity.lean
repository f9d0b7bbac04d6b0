import Mathlib.Tactic.Lemma
import RouteAtlas.Extraction.Basic

/-!
# What extraction leaves alone

Options set the flags of a route, its schema and the names that it refers to. The method, the path
and the imports stay as the file gives them (`Extractor.routeOf_frame`), so that an extracted route
has the path of its file and the method that the path ends in (`Extractor.of_extract_ok`).
-/

namespace RouteAtlas

open Syntax

/-- A parsed file keeps its path. -/
lemma TypeScript.Source.path_of_parse {path : String} {content : ByteArray} {s : TypeScript.Source}
    (parsed : TypeScript.Source.parse path content = .ok s) : s.path = path := by
  unfold parse at parsed
  split at parsed
  · cases parsed
  · split at parsed
    · cases parsed
    · unfold ofTree at parsed
      split at parsed
      · cases parsed
      · cases parsed
        rfl

/-- A file is parsed in vain with a fault of its own. -/
lemma TypeScript.Source.error_of_parse {path : String} {content : ByteArray} {f : Failure}
    (failed : TypeScript.Source.parse path content = .error f) : ∃ text, f = .parse path text := by
  unfold parse at failed
  split at failed
  · cases failed
    exact ⟨_, rfl⟩
  · split at failed
    · cases failed
      exact ⟨_, rfl⟩
    · unfold ofTree at failed
      split at failed
      · cases failed
        exact ⟨_, rfl⟩
      · cases failed

namespace Extraction

/-- Whether two routes agree in what options leave alone. -/
def SameFile (r r' : Route) : Prop :=
  r'.method = r.method ∧ r'.contentType = r.contentType ∧ r'.path = r.path ∧ r'.imports = r.imports

/-- An option leaves the file of a route alone. -/
lemma applyOption_frame (identifiers : Query.Compiled) (source : String) (r : Route)
    (key : OptionKey) (value : Query.Located) :
    SameFile r (applyOption identifiers source r key value) := by
  cases key with
  | auth => exact ⟨rfl, rfl, rfl, rfl⟩
  | roles => exact ⟨rfl, rfl, rfl, rfl⟩
  | headers => exact ⟨rfl, rfl, rfl, rfl⟩
  | params => exact ⟨rfl, rfl, rfl, rfl⟩
  | query => exact ⟨rfl, rfl, rfl, rfl⟩
  | body => exact ⟨rfl, rfl, rfl, rfl⟩

/-- A pair leaves the file of a route alone. -/
lemma applyPair_frame (identifiers : Query.Compiled) (source : String) (r : Route)
    (pair : Query.Located) : SameFile r (applyPair identifiers source r pair).1 := by
  unfold applyPair
  split
  · dsimp only
    split
    · exact applyOption_frame ..
    · exact ⟨rfl, rfl, rfl, rfl⟩
  · exact ⟨rfl, rfl, rfl, rfl⟩

namespace Extractor

/-- Pairs leave the file of a route alone. -/
lemma applyPairs_frame (e : Extractor) (source : String) (r : Route)
    (pairs : List Query.Located) : SameFile r (e.applyPairs source r pairs).1 := by
  refine List.foldlRecOn (motive := fun state : Route × List Event => SameFile r state.1)
    pairs _ ⟨rfl, rfl, rfl, rfl⟩ fun state same pair _ => ?_
  obtain ⟨method, contentType, path, imports⟩ := same
  obtain ⟨method', contentType', path', imports'⟩ :=
    applyPair_frame e.identifiers source state.1 pair
  exact ⟨method'.trans method, contentType'.trans contentType, path'.trans path,
    imports'.trans imports⟩

/-- A route has the method that it was asked for, and the path and the imports of its file. -/
theorem routeOf_frame (e : Extractor) (method : Method) (s : TypeScript.Source) :
    SameFile { method, path := s.path, imports := e.importsOf s } (e.routeOf method s).1 := by
  unfold routeOf
  split
  · exact ⟨rfl, rfl, rfl, rfl⟩
  · exact applyPairs_frame ..

/-- An extracted route is that of a parsed file, with the method that the path ends in. -/
lemma exists_of_extract {e : Extractor} {path : String} {content : ByteArray} {r : Route}
    (extracted : e.extract path content = .ok r) :
    ∃ method s, Method.ofPath? e.extension path = some method ∧
      TypeScript.Source.parse path content = .ok s ∧ r = (e.routeOf method s).1 := by
  unfold extract extractWithEvents at extracted
  cases named : Method.ofPath? e.extension path with
  | none =>
    rw [named] at extracted
    cases extracted
  | some method =>
    cases parsed : TypeScript.Source.parse path content with
    | error f =>
      rw [named, parsed] at extracted
      cases extracted
    | ok s =>
      rw [named, parsed] at extracted
      cases extracted
      exact ⟨method, s, rfl, rfl, rfl⟩

/-- An extracted route has the path of its file and the method that the path ends in. -/
theorem of_extract_ok {e : Extractor} {path : String} {content : ByteArray} {r : Route}
    (extracted : e.extract path content = .ok r) :
    r.path = path ∧ Method.ofPath? e.extension path = some r.method := by
  obtain ⟨method, s, named, parsed, rfl⟩ := exists_of_extract extracted
  obtain ⟨method', _, path', _⟩ := e.routeOf_frame method s
  rw [named]
  exact ⟨path'.trans (TypeScript.Source.path_of_parse parsed), congrArg some method'.symm⟩

/-- A file fails for the lack of a method only if its path ends in none. -/
theorem of_extract_unrecognized {e : Extractor} {path path' : String} {content : ByteArray}
    (failed : e.extract path content = .error (.unrecognizedMethod path')) :
    Method.ofPath? e.extension path = none := by
  unfold extract extractWithEvents at failed
  cases named : Method.ofPath? e.extension path with
  | none => rfl
  | some method =>
    cases parsed : TypeScript.Source.parse path content with
    | error f =>
      obtain ⟨text, rfl⟩ := TypeScript.Source.error_of_parse parsed
      rw [named, parsed] at failed
      cases failed
    | ok s =>
      rw [named, parsed] at failed
      cases failed

end Extractor

end Extraction

end RouteAtlas
