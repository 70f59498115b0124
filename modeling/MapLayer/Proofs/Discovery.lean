import Mathlib
import MapLayer.Command.Run

/-!
Listing services of which some may fail. Main statement: at addresses that can be asked the listing succeeds
whatever the network does, with one element for each address in their order, and what is listed of one
service depends on the answers to its own requests alone.
-/

namespace MapLayer

namespace Outcome

variable {α β : Type}

/-- Whether the user is told of a failure if there is one. -/
def TellsUser (x : Outcome α) : Prop := ∀ failure, x = .error failure → failure.isUserFacing = true

theorem TellsUser.ok (a : α) : TellsUser (.ok a) := nofun

theorem TellsUser.error {failure : Failure} (told : failure.isUserFacing = true) :
    TellsUser (.error failure : Outcome α) := by
  rintro _ ⟨⟩
  exact told

theorem TellsUser.bind {x : Outcome α} {f : α → Outcome β} (first : TellsUser x)
    (next : ∀ a, TellsUser (f a)) : TellsUser (x >>= f) := by
  cases x with
  | error failure => exact .error (first failure rfl)
  | ok a => exact next a

theorem TellsUser.map {x : Outcome α} (first : TellsUser x) (f : α → β) : TellsUser (f <$> x) := by
  cases x with
  | error failure => exact .error (first failure rfl)
  | ok a => exact .ok (f a)

theorem TellsUser.foldlM {f : β → α → Outcome β} (step : ∀ b a, TellsUser (f b a)) (b : β)
    (items : List α) : TellsUser (items.foldlM f b) := by
  induction items generalizing b with
  | nil => exact .ok b
  | cons a items ih => exact (step b a).bind ih

end Outcome

open Outcome

theorem Capabilities.tellsUser_parse (xml : String) : TellsUser (parse xml) := by
  refine (TellsUser.foldlM (fun st event => ?_) _ _).map _
  cases event with
  | text raw =>
    rw [State.next]
    cases Xml.unescape? raw with
    | none => exact .error rfl
    | some s => exact .ok _
  | malformed => exact .error rfl
  | start | empty | finish | data | aside => exact .ok _

namespace LayerDescription

theorem tellsUser_featureUrl? (attributes : List Xml.Attribute) :
    TellsUser (featureUrl? attributes) := by
  fun_induction featureUrl? attributes with
  | case1 => exact .ok _
  | case2 => exact .error rfl
  | case3 => exact .error rfl
  | case4 name value rest _ s _ _ ih => exact ih
  | case5 => exact .ok _
  | case6 name value rest _ ih => exact ih

theorem tellsUser_parse (xml : String) : TellsUser (parse xml) := by
  rw [parse]
  fun_induction firstDescription (Xml.events xml.toList) with
  | case1 => exact .ok _
  | case2 => exact .error rfl
  | case3 => exact tellsUser_featureUrl? _
  | case4 _ _ _ ih => exact ih
  | case5 => exact tellsUser_featureUrl? _
  | case6 _ _ _ ih => exact ih
  | case7 _ _ _ _ _ ih => exact ih

end LayerDescription

namespace Network

/-- The addresses that are asked for a document: one, or none if it cannot be asked. -/
def asked (base : String) (params : List (String × String)) : List Url :=
  match buildUrl base params with
  | .ok url => if isServed url && isWritable url.withoutUser then [url.withoutUser] else []
  | .error _ => []

/-- The addresses that are asked to discover a service: that of its layers, and then that of the feature
service of the first of them. -/
def requests (network : Network) (base : String) : List Url :=
  asked base Discovery.capabilities ++
    match network.capabilities base with
    | .ok ⟨_, layer :: _⟩ => asked base (Discovery.describeLayer layer.name)
    | _ => []

variable {network other : Network} {base : String}

section failures

variable (accepted : ∃ params u, buildUrl base params = .ok u)
include accepted

/-- Whether an address can be built does not depend on the parameters. -/
theorem exists_buildUrl (params : List (String × String)) : ∃ u, buildUrl base params = .ok u := by
  obtain ⟨given, u, built⟩ := accepted
  unfold buildUrl at built ⊢
  cases parsed : Url.parse base.toList with
  | error fault =>
    rw [parsed] at built
    cases built
  | ok own => exact ⟨_, rfl⟩

theorem tellsUser_fetch (params : List (String × String)) :
    TellsUser (network.fetch base params) := by
  obtain ⟨u, built⟩ := exists_buildUrl accepted params
  rw [fetch, built]
  refine (TellsUser.ok u).bind fun url => ?_
  cases network.get url with
  | error reason => exact .error rfl
  | ok text => exact .ok text

theorem tellsUser_discoverService : TellsUser (network.discoverService base) := by
  refine ((tellsUser_fetch accepted _).bind Capabilities.tellsUser_parse).bind fun found => ?_
  refine TellsUser.bind ?_ fun _ => .ok _
  cases found.layers with
  | nil => exact .ok base
  | cons layer layers =>
    refine (tellsUser_fetch accepted _).bind fun text => ?_
    exact (LayerDescription.tellsUser_parse text).bind fun _ => .ok _

end failures

theorem get_congr {url : Url} (same : isServed url = true → isWritable url.withoutUser = true →
    other url.withoutUser = network url.withoutUser) : other.get url = network.get url := by
  unfold get
  cases served : isServed url with
  | false => rfl
  | true =>
    cases writable : isWritable url.withoutUser with
    | false => rfl
    | true => rw [same served writable]

theorem fetch_congr {params : List (String × String)}
    (same : ∀ r ∈ asked base params, other r = network r) :
    other.fetch base params = network.fetch base params := by
  unfold fetch
  unfold asked at same
  cases built : buildUrl base params with
  | error failure => rfl
  | ok url =>
    rw [built] at same
    have got : other.get url = network.get url := by
      refine get_congr fun served writable => same _ ?_
      simp [served, writable]
    dsimp only [bind, Except.bind]
    rw [got]

/-- What is found of a service depends on the answers to its own requests. -/
theorem discoverService_congr (same : ∀ r ∈ network.requests base, other r = network r) :
    other.discoverService base = network.discoverService base := by
  rw [requests] at same
  obtain ⟨first, second⟩ := List.forall_mem_append.1 same
  have found : other.capabilities base = network.capabilities base := by
    rw [capabilities, capabilities, fetch_congr first]
  rw [discoverService, discoverService, found]
  cases answered : network.capabilities base with
  | error failure => rfl
  | ok found =>
    obtain ⟨title, layers⟩ := found
    cases layers with
    | nil => rfl
    | cons layer rest =>
      rw [answered] at second
      have service : other.featureService base layer.name = network.featureService base layer.name := by
        rw [featureService, featureService, fetch_congr second]
      show (do let _ ← other.featureService base layer.name; _) = _
      rw [service]
      rfl

end Network

namespace Command

/-- What is listed of a service: its entry, or the failure that the user is told of. -/
def listed (network : Network) (url : String) : Json :=
  match network.discoverService url with
  | .ok entry => entry.toJson
  | .error failure =>
    .ofMembers [("baseUrl", .string url), ("error", .string failure.message)]

/-- The services that are listed: those that are named, or else those of the configuration. -/
def chosen (s : ServiceList) (urls : List String) : List String :=
  if urls = [] then s.urls else urls

/-- The network may answer for each service in its own way, also for one that is asked twice. -/
theorem entriesJson_listed {services : List (String × Network)}
    (accepted : ∀ e ∈ services, ∃ params u, buildUrl e.1 params = .ok u) :
    entriesJson (services.map fun (url, network) => (url, network.discoverService url))
      = .ok (services.map fun (url, network) => listed network url) := by
  induction services with
  | nil => rfl
  | cons e services ih =>
    obtain ⟨url, network⟩ := e
    obtain ⟨first, accepted⟩ := List.forall_mem_cons.1 accepted
    have shown : entryJson url (network.discoverService url) = .ok (listed network url) := by
      rw [listed]
      cases found : network.discoverService url with
      | ok entry => rfl
      | error failure =>
        have told := Network.tellsUser_discoverService first failure found
        rw [entryJson, if_pos told]
    rw [List.map_cons, entriesJson, shown, ih accepted]
    rfl

/-- At addresses that can be built the listing succeeds, with one element for each service in their order, also if
the network answers for each in its own way. Whatever goes wrong with a service is something that the user is
told, and its element stays the same as long as the answers to the requests for it do. -/
theorem discover_listed {s : ServiceList} {urls : List String}
    (accepted : ∀ url ∈ chosen s urls, ∃ params u, buildUrl url params = .ok u) (network : Network) :
    discover network s urls = .ok (printed (.array ((chosen s urls).map (listed network)))) ∧
      (∀ services : List (String × Network), services.map (·.1) = chosen s urls →
        entriesJson (services.map fun (url, network) => (url, network.discoverService url))
          = .ok (services.map fun (url, network) => listed network url)) ∧
      ∀ url ∈ chosen s urls,
        (∀ failure, network.discoverService url = .error failure → failure.isUserFacing = true) ∧
        ∀ other : Network, (∀ r ∈ network.requests url, other r = network r) →
          listed other url = listed network url := by
  have each (services : List (String × Network)) (asked : services.map (·.1) = chosen s urls) :
      entriesJson (services.map fun (url, network) => (url, network.discoverService url))
        = .ok (services.map fun (url, network) => listed network url) :=
    entriesJson_listed fun e he => accepted e.1 (asked ▸ List.mem_map_of_mem he)
  refine ⟨?_, each, fun url found => ⟨Network.tellsUser_discoverService (accepted url found), ?_⟩⟩
  · have all := each ((chosen s urls).map fun url => (url, network)) (by simp [Function.comp_def])
    rw [List.map_map, List.map_map, Function.comp_def, ← Network.discoverServices] at all
    show (do return printed (.array (← entriesJson (network.discoverServices (chosen s urls))))) = _
    rw [all]
    rfl
  · intro other same
    rw [listed, listed, Network.discoverService_congr same]

/-- The document of one service leaves elements open, that of the other breaks off in a tag. -/
def halfBroken : Network := fun url =>
  if url.path = ['/', 'a'] then .ok ⟨200, .ok "<Service><Title>A"⟩
  else .ok ⟨200, .ok "<C></D"⟩

theorem discover_listed_halfBroken :
    let urls := ["http://[::1]/b", "http://[::1]/a"]
    (∀ url ∈ chosen {} urls, ∃ params u, buildUrl url params = .ok u) ∧
      discover halfBroken {} urls = .ok (printed (.array
        [.ofMembers [("baseUrl", .string "http://[::1]/b"),
          ("error", .string "Malformed XML response: capabilities parse error")],
        .ofMembers [("title", .string "A"), ("baseUrl", .string "http://[::1]/a"),
          ("wfsUrl", .string "http://[::1]/a"), ("layers", .array [])]])) := by
  intro urls
  have accepted : ∀ url ∈ chosen {} urls, ∃ params u, buildUrl url params = .ok u := by
    intro url found
    have named : url = "http://[::1]/b" ∨ url = "http://[::1]/a" := by simpa [chosen, urls] using found
    rcases named with rfl | rfl
    · exact ⟨[], _, by cbv⟩
    · exact ⟨[], _, by cbv⟩
  refine ⟨accepted, (discover_listed accepted halfBroken).1.trans ?_⟩
  have broken : halfBroken.discoverService "http://[::1]/b" = .error Capabilities.malformed := by cbv
  have whole : halfBroken.discoverService "http://[::1]/a"
      = .ok ⟨"A", "http://[::1]/a", "http://[::1]/a", []⟩ := by cbv
  show Except.ok (printed (.array [listed halfBroken "http://[::1]/b",
    listed halfBroken "http://[::1]/a"])) = _
  rw [listed, listed, broken, whole]
  rfl

end Command

end MapLayer
