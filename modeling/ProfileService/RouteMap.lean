/-
# The map of routes

`addRoute` files a route under one string, its path, a colon and the number of its method, and
`BuildRouteMap` cuts the string at its first colon again.  As long as no path has a colon, the
strings tell the pairs of a path and a method apart: `FlatRoutes` is a table under such pairs
with its keys renamed, and the map of routes is that table again, in whatever order the
entries of `FlatRoutes` come.
-/
import ProfileService.RequestManager

namespace ProfileService

open Bytes (str)
open Decimal (decimal)

/-! ## Calls of `addRoute` -/

/-- The arguments of a call of `addRoute`. -/
structure Registration where
  path : Bytes
  method : Verb
  id : HandlerId
  scope : Bytes
deriving DecidableEq

/-- `{method, id, scope}`. -/
def Registration.info (r : Registration) : HandlerInfo := ⟨r.method, r.id, r.scope⟩

/-- `path + ":" + std::to_string(static_cast<int>(method))`. -/
def flatKey (path : Bytes) (method : Verb) : Bytes := path ++ str ":" ++ decimal method.toInt

/-- `addRoute`, on any bytes. -/
def Registration.add (r : Registration) (routes : FlatRoutes) : FlatRoutes :=
  AssocMap.assign (flatKey r.path r.method) r.info routes

/-- `FlatRoutes` after calls of `addRoute`. -/
def flatRoutes (registrations : List Registration) : FlatRoutes :=
  registrations.foldl (fun routes r => r.add routes) []

lemma addRoute_eq_add (path : String) (method : Verb) (id : HandlerId) (scope : String) :
    addRoute path method id scope = Registration.add ⟨str path, method, id, str scope⟩ := rfl

/-- The last call for a path and a method. -/
def lastRegistration (registrations : List Registration) (path : Bytes) (method : Verb) :
    Option Registration :=
  registrations.reverse.find? fun r => (r.path, r.method) = (path, method)

/-! ## The key of a route -/

/-- Two routes with one key are one route. -/
lemma flatKey_injective {path path' : Bytes} {method method' : Verb} (hpath : 0x3A ∉ path)
    (hpath' : 0x3A ∉ path') (h : flatKey path method = flatKey path' method') :
    path = path' ∧ method = method' := by
  unfold flatKey at h
  rw [List.append_assoc, List.append_assoc] at h
  -- the first colon ends the path
  have hlen : path.length = path'.length := by
    have hfind := Bytes.find_byte_append (t := decimal method.toInt) hpath
    have hfind' := Bytes.find_byte_append (t := decimal method'.toInt) hpath'
    have hkey := congrArg (fun key => Bytes.find key (str ":") 0) h
    exact Option.some_inj.mp (hfind.symm.trans (hkey.trans hfind'))
  obtain ⟨rfl, hrest⟩ := List.append_inj h hlen
  have hdigits := Decimal.digits_injective (List.append_inj_right hrest rfl)
  exact ⟨rfl, Verb.toInt_injective hdigits⟩

/-- What `BuildRouteMap` makes of an entry. -/
def splitEntry (entry : Bytes × HandlerInfo) : Option ((Bytes × Verb) × HandlerInfo) :=
  (entry.1.find (str ":") 0).map fun colonPos =>
    ((entry.1.take colonPos, entry.2.method), entry.2)

lemma splitEntry_flatKey {path : Bytes} (hpath : 0x3A ∉ path) (info : HandlerInfo) :
    splitEntry (flatKey path info.method, info) = some ((path, info.method), info) := by
  have hfind : (flatKey path info.method).find (str ":") 0 = some path.length := by
    rw [flatKey, List.append_assoc]
    exact Bytes.find_byte_append hpath
  rw [splitEntry, hfind, Option.map_some, flatKey, List.append_assoc, List.take_left]

/-- `BuildRouteMap` assigns what it makes of the entries, one after the other. -/
lemma buildRouteMap_eq (routes : FlatRoutes) :
    buildRouteMap routes = AssocMap.assignAll₂ (routes.filterMap splitEntry) := by
  rw [buildRouteMap, AssocMap.assignAll₂, List.foldl_filterMap]
  congr 1
  funext routeMap entry
  unfold splitEntry
  cases entry.1.find (str ":") 0 <;> rfl

/-! ## The table under pairs -/

section

variable {registrations : List Registration}

/-- The routes under their pairs of a path and a method. -/
def routesByPair (registrations : List Registration) : List ((Bytes × Verb) × HandlerInfo) :=
  AssocMap.assignAll (registrations.map fun r => ((r.path, r.method), r.info))

lemma keyed_routesByPair : AssocMap.Keyed (routesByPair registrations) :=
  AssocMap.keyed_assignAll _

lemma exists_of_mem_routesByPair {e : (Bytes × Verb) × HandlerInfo}
    (h : e ∈ routesByPair registrations) :
    ∃ r ∈ registrations, ((r.path, r.method), r.info) = e :=
  List.mem_map.mp (AssocMap.mem_of_mem_assignAll h)

/-- The table has the last registration of each pair. -/
lemma lookup_routesByPair (path : Bytes) (method : Verb) :
    (routesByPair registrations).lookup (path, method) =
      (lastRegistration registrations path method).map Registration.info := by
  rw [routesByPair, AssocMap.lookup_assignAll, ← List.map_reverse, lastRegistration]
  induction registrations.reverse with
  | nil => rfl
  | cons r rs ih =>
    rw [List.map_cons, List.lookup_cons, ih, List.find?_cons]
    by_cases hr : (r.path, r.method) = (path, method)
    · simp [hr]
    · simp [hr, beq_eq_false_iff_ne.mpr (Ne.symm hr)]

/-- `FlatRoutes` is the table with its pairs made strings. -/
theorem flatRoutes_eq (hcolon : ∀ r ∈ registrations, 0x3A ∉ r.path) :
    flatRoutes registrations =
      (routesByPair registrations).map (Prod.map (fun route => flatKey route.1 route.2) id) := by
  rw [routesByPair, ← AssocMap.assignAll_rename, List.map_map, AssocMap.assignAll,
    List.foldl_map]
  · rfl
  · rintro e he e' he' hkey
    obtain ⟨r, hr, rfl⟩ := List.mem_map.mp he
    obtain ⟨r', hr', rfl⟩ := List.mem_map.mp he'
    obtain ⟨hpath, hmethod⟩ := flatKey_injective (hcolon r hr) (hcolon r' hr') hkey
    exact Prod.ext hpath hmethod

/-- Splitting the strings gives the table back. -/
lemma filterMap_splitEntry_flatRoutes (hcolon : ∀ r ∈ registrations, 0x3A ∉ r.path) :
    (flatRoutes registrations).filterMap splitEntry = routesByPair registrations := by
  rw [flatRoutes_eq hcolon, List.filterMap_map]
  refine (List.filterMap_congr fun e he => ?_).trans List.filterMap_some
  obtain ⟨r, hr, rfl⟩ := exists_of_mem_routesByPair he
  exact splitEntry_flatKey (hcolon r hr) r.info

/-- The map of routes holds what the table holds, in whatever order the routes come. -/
theorem lookup_buildRouteMap (hcolon : ∀ r ∈ registrations, 0x3A ∉ r.path)
    {iterated : FlatRoutes} (horder : iterated.Perm (flatRoutes registrations)) (path : Bytes)
    (method : Verb) :
    AssocMap.lookup₂ path method (buildRouteMap iterated) =
      (routesByPair registrations).lookup (path, method) := by
  have hperm : (iterated.filterMap splitEntry).Perm (routesByPair registrations) := by
    rw [← filterMap_splitEntry_flatRoutes hcolon]
    exact horder.filterMap splitEntry
  rw [buildRouteMap_eq]
  exact AssocMap.lookup₂_assignAll₂_perm keyed_routesByPair hperm path method

end

/-! ## The calls of the service -/

/-- The calls in `GetApiSpec`, which left every route they made. -/
def apiRegistrations : List Registration :=
  apiSpec.map fun entry =>
    ⟨entry.1.takeWhile (· ≠ 0x3A), entry.2.method, entry.2.id, entry.2.scope⟩

lemma flatRoutes_apiRegistrations : flatRoutes apiRegistrations = apiSpec := by decide

lemma apiRegistrations_colonFree : ∀ r ∈ apiRegistrations, 0x3A ∉ r.path := by decide

/-! ## The map that `BuildRouteMap` leaves -/

/-- Whatever order `FlatRoutes` is iterated in, `m_routeMap[path][method]` is what the last
registration for the path and the method gave, and no other pair has an entry. -/
theorem routeMap_reconstructed {registrations : List Registration}
    (hcolon : ∀ r ∈ registrations, 0x3A ∉ r.path) {iterated : FlatRoutes}
    (horder : iterated.Perm (flatRoutes registrations)) (path : Bytes) (method : Verb) :
    AssocMap.lookup₂ path method (buildRouteMap iterated) =
        (lastRegistration registrations path method).map Registration.info ∧
      ∀ info, (∃ methods, (path, methods) ∈ buildRouteMap iterated ∧ (method, info) ∈ methods) ↔
        (lastRegistration registrations path method).map Registration.info = some info := by
  have hlookup := (lookup_buildRouteMap hcolon horder path method).trans
    (lookup_routesByPair path method)
  refine ⟨hlookup, fun info => ?_⟩
  rw [← hlookup, buildRouteMap_eq]
  exact (AssocMap.keyed₂_assignAll₂ _).lookup₂_eq_some.symm

/-- A call more than those of the service, for the route of another, and the routes iterated
backwards. -/
theorem routeMap_reconstructed_overwritten :
    AssocMap.lookup₂ (str "/me") .get
        (buildRouteMap (flatRoutes (apiRegistrations ++
          [⟨str "/me", .get, .getPrivacy, str "privacy:read"⟩])).reverse) =
      some ⟨.get, .getPrivacy, str "privacy:read"⟩ :=
  (routeMap_reconstructed (by decide) (List.reverse_perm _) (str "/me") .get).1

/-- In whatever order `BuildRouteMap` met the routes of the service, a lookup is one in the
table under pairs. -/
lemma lookup_of_iteration {iterated : FlatRoutes} (horder : iterated.Perm apiSpec)
    (path : Bytes) (method : Verb) :
    AssocMap.lookup₂ path method (buildRouteMap iterated) =
      (routesByPair apiRegistrations).lookup (path, method) := by
  rw [← flatRoutes_apiRegistrations] at horder
  exact lookup_buildRouteMap apiRegistrations_colonFree horder path method

lemma findExact_eq_lookup (path : Bytes) (method : Verb) :
    findExact path method = (routesByPair apiRegistrations).lookup (path, method) :=
  lookup_of_iteration (List.Perm.refl _) path method

/-- The service finds the same routes in whatever order `BuildRouteMap` meets them. -/
theorem findExact_of_iteration {iterated : FlatRoutes} (horder : iterated.Perm apiSpec)
    (path : Bytes) (method : Verb) :
    AssocMap.lookup₂ path method (buildRouteMap iterated) = findExact path method :=
  (lookup_of_iteration horder path method).trans (findExact_eq_lookup path method).symm

end ProfileService
