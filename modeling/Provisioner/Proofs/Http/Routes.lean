import Provisioner.Proofs.Http.Address
import Provisioner.Proofs.Http.Listing

/-!
# Addresses of calls

The paths of all calls follow a few patterns of words and names (`RoutePattern.all`), and no two patterns of one method
have a path in common (`RoutePattern.eq_of_overlap`). So a request addresses one resource only: calls whose requests
have the same method and path are of the same kind and about the same names (`ControlPlane.requests_apart`). Names stand
in paths as they are, so that takes names that are kept as they are in an address; other names collide
(`ControlPlane.names_collide`).
-/
namespace Provisioner
open Http Url

/-! ## Patterns -/

/-- What stands between two slashes of a path. -/
inductive RoutePart where
  | word (text : String)
  /-- A name, with something behind it. -/
  | name (suffix : String)
  deriving DecidableEq, Repr

/-- What the paths of the calls of one kind have in common. -/
structure RoutePattern where
  call : String
  method : Method
  parts : List RoutePart
  deriving DecidableEq, Repr

namespace RoutePart

/-- What is the same in all paths. -/
def text : RoutePart → String
  | word text => text
  | name suffix => suffix

/-- The part stands for a name. -/
def isName : RoutePart → Bool
  | word _ => false
  | name _ => true

/-- Two parts can be the same in two paths. -/
def overlap : RoutePart → RoutePart → Bool
  | word text, word text' => text = text'
  | name suffix, name suffix' => suffix.toList <:+ suffix'.toList ∨ suffix'.toList <:+ suffix.toList
  | _, _ => true

end RoutePart

namespace RoutePattern
open RoutePart (word name)

/-- The patterns of all calls. -/
def all : List RoutePattern :=
  [⟨"create_cluster", .post, [name "", word "clusters"]⟩,
    ⟨"get_cluster", .get, [name "", word "clusters", name ""]⟩,
    ⟨"update_cluster", .patch, [name "", word "clusters", name ""]⟩,
    ⟨"delete_cluster", .delete, [name "", word "clusters", name ""]⟩,
    ⟨"list_clusters", .get, [name "", word "clusters"]⟩,
    ⟨"update_process_args", .patch, [name "", word "clusters", name "", word "processArgs"]⟩,
    ⟨"create_processor", .post, [name "", word "streams", name "", word "processor"]⟩,
    ⟨"get_processor", .get, [name "", word "streams", name "", word "processor", name ""]⟩,
    ⟨"update_processor", .patch, [name "", word "streams", name "", word "processor", name ""]⟩,
    ⟨"delete_processor", .delete, [name "", word "streams", name "", word "processor", name ""]⟩,
    ⟨"list_processors", .get, [name "", word "streams", name "", word "processors"]⟩,
    ⟨"start_processor", .post, [name "", word "streams", name "", word "processor", name ":start"]⟩,
    ⟨"stop_processor", .post, [name "", word "streams", name "", word "processor", name ":stop"]⟩,
    ⟨"create_service", .post, [name "", word "privateEndpoint", word "endpointService"]⟩,
    ⟨"get_service", .get, [name "", word "privateEndpoint", word "AWS", word "endpointService", name ""]⟩,
    ⟨"delete_service", .delete, [name "", word "privateEndpoint", word "AWS", word "endpointService", name ""]⟩,
    ⟨"list_services", .get, [name "", word "privateEndpoint", word "AWS", word "endpointService"]⟩,
    ⟨"attach_interface", .post,
      [name "", word "privateEndpoint", word "AWS", word "endpointService", name "", word "endpoint"]⟩,
    ⟨"get_interface", .get,
      [name "", word "privateEndpoint", word "AWS", word "endpointService", name "", word "endpoint", name ""]⟩,
    ⟨"detach_interface", .delete,
      [name "", word "privateEndpoint", word "AWS", word "endpointService", name "", word "endpoint", name ""]⟩,
    ⟨"create_export", .post, [name "", word "clusters", name "", word "backup", word "exports"]⟩,
    ⟨"get_export", .get, [name "", word "clusters", name "", word "backup", word "exports", name ""]⟩,
    ⟨"list_exports", .get, [name "", word "clusters", name "", word "backup", word "exports"]⟩]

/-- Two patterns can have a path in common. -/
def overlap : List RoutePart → List RoutePart → Bool
  | [], [] => true
  | part :: parts, part' :: parts' => part.overlap part' && overlap parts parts'
  | _, _ => false

/-- Patterns of one method that can have a path in common are the same. -/
theorem eq_of_overlap : ∀ pattern ∈ all, ∀ pattern' ∈ all, pattern.method = pattern'.method →
    overlap pattern.parts pattern'.parts = true → pattern = pattern' := by
  decide +kernel

/-- A path follows a pattern with some names. -/
inductive Fills : List RoutePart → (names segments : List (List Char)) → Prop
  | nil : Fills [] [] []
  | word {text : String} {parts : List RoutePart} {names segments : List (List Char)} {segment : List Char}
      (same : segment = text.toList) (later : Fills parts names segments) :
      Fills (.word text :: parts) names (segment :: segments)
  | name {suffix : String} {parts : List RoutePart} {name : List Char} {names segments : List (List Char)}
      {segment : List Char} (same : segment = name ++ suffix.toList) (later : Fills parts names segments) :
      Fills (.name suffix :: parts) (name :: names) (segment :: segments)

/-- The path with some names. -/
def fill : List RoutePart → (names : List (List Char)) → List (List Char)
  | .word text :: parts, names => text.toList :: fill parts names
  | .name suffix :: parts, first :: names => (first ++ suffix.toList) :: fill parts names
  | _, _ => []

theorem fills_fill {parts : List RoutePart} {names : List (List Char)}
    (enough : names.length = parts.countP RoutePart.isName) : Fills parts names (fill parts names) := by
  induction parts generalizing names with
  | nil =>
    obtain rfl := List.eq_nil_of_length_eq_zero enough
    exact .nil
  | cons part parts ih =>
    cases part with
    | word text => exact .word rfl (ih (by simpa [RoutePart.isName] using enough))
    | name suffix =>
      cases names with
      | nil => simp [List.countP_cons, RoutePart.isName] at enough
      | cons name names => exact .name rfl (ih (by simpa [List.countP_cons, RoutePart.isName] using enough))

namespace Fills
variable {parts parts' : List RoutePart} {names names' segments : List (List Char)}

/-- Patterns with a path in common overlap. -/
theorem overlap (fills : Fills parts names segments) (fills' : Fills parts' names' segments) :
    overlap parts parts' = true := by
  induction fills generalizing parts' names' with
  | nil =>
    cases fills'
    rfl
  | word same _ ih =>
    cases fills' with
    | word same' later =>
      have here := String.toList_inj.mp (same.symm.trans same')
      simp [RoutePattern.overlap, RoutePart.overlap, here, ih later]
    | name _ later => simp [RoutePattern.overlap, RoutePart.overlap, ih later]
  | name same _ ih =>
    cases fills' with
    | word _ later => simp [RoutePattern.overlap, RoutePart.overlap, ih later]
    | name same' later =>
      -- of two ends of one segment, one is an end of the other
      have here := List.suffix_or_suffix_of_suffix ⟨_, same.symm⟩ ⟨_, same'.symm⟩
      simp [RoutePattern.overlap, RoutePart.overlap, here, ih later]

/-- The names can be told from the path. -/
theorem names_unique (fills : Fills parts names segments) (fills' : Fills parts names' segments) : names = names' := by
  induction fills generalizing names' with
  | nil =>
    cases fills'
    rfl
  | word _ _ ih =>
    cases fills' with
    | word _ later => exact ih later
  | name same _ ih =>
    cases fills' with
    | name same' later => rw [List.append_cancel_right (same.symm.trans same'), ih later]

theorem parts_eq_nil (fills : Fills parts names []) : parts = [] := by
  cases fills
  rfl

/-- The names are encoded one by one. -/
theorem encoded {reserved : List Char} (fills : Fills parts names segments)
    (plain : ∀ part ∈ parts, ∀ c ∈ part.text.toList, IsPlain reserved c) :
    Fills parts (names.map (encoded reserved)) (segments.map (encoded reserved)) := by
  induction fills with
  | nil => exact .nil
  | word same _ ih =>
    obtain ⟨here, later⟩ := List.forall_mem_cons.mp plain
    exact .word ((encoded_of_plain (same ▸ here)).trans same) (ih later)
  | name same _ ih =>
    obtain ⟨here, later⟩ := List.forall_mem_cons.mp plain
    refine .name ?_ (ih later)
    rw [same, encoded_append]
    exact congrArg _ (encoded_of_plain here)

/-- A path holds a character only if its pattern or a name in it does. -/
theorem not_mem {c : Char} (fills : Fills parts names segments) (words : ∀ part ∈ parts, c ∉ part.text.toList)
    (free : ∀ name ∈ names, c ∉ name) : ∀ segment ∈ segments, c ∉ segment := by
  induction fills with
  | nil => simp
  | word same _ ih =>
    obtain ⟨here, later⟩ := List.forall_mem_cons.mp words
    exact List.forall_mem_cons.mpr ⟨same ▸ here, ih later free⟩
  | name same _ ih =>
    obtain ⟨here, later⟩ := List.forall_mem_cons.mp words
    obtain ⟨bare, others⟩ := List.forall_mem_cons.mp free
    refine List.forall_mem_cons.mpr ⟨?_, ih later others⟩
    rw [same, List.mem_append, not_or]
    exact ⟨bare, here⟩

end Fills

theorem parts_ne_nil : ∀ pattern ∈ all, pattern.parts ≠ [] := by
  decide

/-- Words and what stands behind names need not be encoded. -/
theorem isPlain_of_mem_all : ∀ pattern ∈ all, ∀ part ∈ pattern.parts, ∀ c ∈ part.text.toList,
    IsPlain reservedInPath c := by
  decide +kernel

/-- Nothing in a pattern separates segments or is dropped from an address. -/
theorem not_mem_of_mem_all : ∀ pattern ∈ all, ∀ part ∈ pattern.parts, ∀ c ∈ ['/', '\\', '?', '#', '\t', '\n', '\r'],
    c ∉ part.text.toList := by
  decide +kernel

end RoutePattern

/-! ## Paths of calls -/

namespace ControlCall

/-- The names in the path of a call. What is created or attached is named in the body. -/
def pathNames : ControlCall → List String
  | createService project _ => [project]
  | attachInterface project service _ => [project, service]
  | c => c.names

open RoutePattern in
/-- The path of a call follows a pattern. -/
theorem exists_pattern (c : ControlCall) : ∃ pattern ∈ all, ∃ segments,
    pattern.call = c.name ∧ pattern.method = c.route.method ∧
      Fills pattern.parts (c.pathNames.map String.toList) segments ∧
      c.route.path.toList = ControlPlane.root.toList ++ joinSegments segments := by
  have known {pattern : RoutePattern} (found : all.find? (fun pattern => pattern.call = c.name) = some pattern) :
      pattern ∈ all := List.mem_of_find?_eq_some found
  cases c <;>
  · refine ⟨_, known rfl, _, rfl, rfl, fills_fill rfl, ?_⟩
    simp [toString, route, pathNames, names, fill, joinSegments, ControlPlane.clustersPath, ControlPlane.clusterPath,
      ControlPlane.processorPath, ControlPlane.servicePath, ControlPlane.interfacePath, ControlPlane.exportsPath,
      ControlPlane.provider]

/-- The path of a call is kept as it is in an address: nothing in its names counts as a separator or is dropped, no
segment leads to another place, and the path does not end in a blank. -/
structure HasPlainPath (c : ControlCall) : Prop where
  names : ∀ name ∈ c.pathNames, ∀ d ∈ ['/', '\\', '?', '#', '\t', '\n', '\r'], d ∉ name.toList
  steps : ∀ segment ∈ Text.splitOn '/' c.route.path.toList, IsStep segment
  ends : ∀ last ∈ c.route.path.toList.getLast?, isEdge last = false

/-- Below the root, such a path has clean segments. -/
theorem HasPlainPath.isClean {c : ControlCall} (plain : c.HasPlainPath) {pattern : RoutePattern}
    (known : pattern ∈ RoutePattern.all) {segments : List (List Char)}
    (fills : RoutePattern.Fills pattern.parts (c.pathNames.map String.toList) segments)
    (spelled : c.route.path.toList = ControlPlane.root.toList ++ joinSegments segments) : IsClean segments := by
  have kept : ∀ segment ∈ segments, ∀ d ∈ ['/', '\\', '?', '#', '\t', '\n', '\r'], d ∉ segment := by
    intro segment member d separates
    refine fills.not_mem (fun part inside => RoutePattern.not_mem_of_mem_all pattern known part inside d separates) ?_
      segment member
    simpa using fun name named => plain.names name named d separates
  have whole : ∀ segment ∈ segments, '/' ∉ segment := fun segment member => kept segment member '/' (by decide)
  have nonempty : segments ≠ [] := by
    rintro rfl
    exact RoutePattern.parts_ne_nil pattern known fills.parts_eq_nil
  refine ⟨nonempty, fun segment member d inside separates => kept segment member d separates inside, ?_, ?_⟩
  · intro segment member
    apply plain.steps
    rw [spelled, splitOn_append_joinSegments _ whole]
    exact List.mem_append_right _ member
  · intro last ends
    apply plain.ends
    rw [spelled, List.getLast?_append_of_ne_nil _ (joinSegments_ne_nil nonempty)]
    exact ends

end ControlCall

/-! ## Requests of calls -/

namespace ControlPlane
variable {ε α : Type} {client : Client} {c c' : ControlCall} {trace : Trace Web}

/-- All requests are for the method and the path of the call. If there are none, they cannot be made. -/
def Asks (client : Client) (c : ControlCall) (trace : Trace Web) : Prop :=
  (trace = [] → ∃ query body error, client.request c.route.method c.route.path query body = .error error) ∧
    ∀ answered ∈ trace, ∃ query body, client.request c.route.method c.route.path query body = .ok answered.call

theorem asks_of_send {query : List (String × String)} {body : Option Json}
    {result : Except ε (Except GatewayError String)}
    (ends : (client.send c.route.method c.route.path query body).Ends trace result) : Asks client c trace := by
  rcases Client.ends_send.mp ends with ⟨error, unmade, rfl, _⟩ | ⟨request, reply, _, made, rfl, _⟩
  · exact ⟨fun _ => ⟨query, body, error, unmade⟩, by simp⟩
  · exact ⟨nofun, by simpa using ⟨query, body, made⟩⟩

theorem asks_of_single {shape : Shape α} {result : Except ε (Except GatewayError α)}
    (ends : (single client c shape).Ends trace result) : Asks client c trace := by
  obtain ⟨_, sent, _⟩ := Client.ends_send_bind.mp ends
  exact asks_of_send sent

theorem asks_of_plain {result : Except ε (Except GatewayError Unit)} (ends : (plain client c).Ends trace result) :
    Asks client c trace := by
  obtain ⟨_, sent, _⟩ := Client.ends_send_bind.mp ends
  exact asks_of_send sent

theorem asks_of_paged {item : Shape α} {result : Except ε (Except GatewayError (List α))}
    (ends : (paged client c item).Ends trace result) : Asks client c trace := by
  have ends : (pagesFrom client c item 1 [] : Program Web ε _).Ends trace result := ends
  refine ⟨?_, fun answered member => ?_⟩
  · rintro rfl
    rcases ends_pagesFrom ends with ⟨error, unmade, _⟩ | ⟨_, _, _, _, _, ⟨⟩, _⟩
    exact ⟨_, _, error, unmade⟩
  · obtain ⟨number, made⟩ := pageRequest_of_pagesFrom ends member
    exact ⟨_, _, made⟩

theorem asks_of_perform {result : Except ε (Except GatewayError c.Result)}
    (ends : (perform client c).Ends trace result) : Asks client c trace := by
  cases c with
  | deleteCluster | deleteProcessor | startProcessor | stopProcessor | deleteService | detachInterface =>
    exact asks_of_plain ends
  | listClusters | listProcessors | listServices | listExports => exact asks_of_paged ends
  | _ => exact asks_of_single ends

/-- A call makes a request, after some answers. -/
def Requests (client : Client) (c : ControlCall) (request : Request) : Prop :=
  ∃ (trace : Trace Web) (result : Except Empty (Except GatewayError c.Result)),
    (perform client c).Ends trace result ∧ ∃ answered ∈ trace, answered.call = request

/-- The method and the path of the requests that a call makes. -/
def address (client : Client) (c : ControlCall) : Option (Method × List Char) :=
  (client.request c.route.method c.route.path [] none).toOption.map fun request => (request.method, request.url.path)

/-- The address does not depend on parameters and the body. -/
theorem address_eq {query : List (String × String)} {body : Option Json} {request : Request}
    (made : client.request c.route.method c.route.path query body = .ok request) :
    address client c = some (request.method, request.url.path) := by
  obtain ⟨bare, made'⟩ := (Client.exists_request_iff query [] body none).mp ⟨request, made⟩
  obtain ⟨url, parsed, _, method, path⟩ := Client.parse_of_request made
  obtain ⟨url', parsed', _, method', path'⟩ := Client.parse_of_request made'
  obtain rfl := Except.ok.inj (parsed.symm.trans parsed')
  rw [address, made', method, path, ← method', ← path']
  rfl

theorem Requests.exists_request {request : Request} (requests : Requests client c request) :
    ∃ query body, client.request c.route.method c.route.path query body = .ok request := by
  obtain ⟨trace, _, ends, answered, member, rfl⟩ := requests
  exact (asks_of_perform ends).2 answered member

/-- A call whose request can be made makes one. -/
theorem exists_requests {method : Method} {path : List Char} (known : address client c = some (method, path)) :
    ∃ request, Requests client c request ∧ request.method = method ∧ request.url.path = path := by
  obtain ⟨trace, result, ends, _⟩ := Program.exists_ends (ι := Web) (fun _ => Reply.dropped)
    (perform client c : Program Web Empty _)
  cases trace with
  | nil =>
    obtain ⟨query, body, error, unmade⟩ := (asks_of_perform ends).1 rfl
    cases bare : client.request c.route.method c.route.path [] none with
    | error => simp [address, bare, Except.toOption] at known
    | ok request =>
      obtain ⟨_, made⟩ := (Client.exists_request_iff [] query none body).mp ⟨request, bare⟩
      cases unmade.symm.trans made
  | cons answered rest =>
    have requests : Requests client c answered.call := ⟨_, result, ends, answered, List.mem_cons_self, rfl⟩
    obtain ⟨_, _, made⟩ := requests.exists_request
    cases (address_eq made).symm.trans known
    exact ⟨_, requests, rfl, rfl⟩

/-- A request addresses what its call is about, if the base address has neither a query nor a fragment, and paths are
kept as they are: calls whose requests have the same method and path are of the same kind, and the names in their paths
are the same once they are encoded. If no name holds an escape, the names themselves are the same. -/
theorem requests_apart (bare : '?' ∉ client.baseUrl.toList ∧ '#' ∉ client.baseUrl.toList) (plain : c.HasPlainPath)
    (plain' : c'.HasPlainPath) {request request' : Request} (requests : Requests client c request)
    (requests' : Requests client c' request') (sameMethod : request.method = request'.method)
    (samePath : request.url.path = request'.url.path) :
    c.name = c'.name ∧
      c.pathNames.map (fun name => encoded reservedInPath name.toList) =
        c'.pathNames.map (fun name => encoded reservedInPath name.toList) ∧
      ((∀ name ∈ c.pathNames ++ c'.pathNames, ¬ HasEscape name.toList) → c.pathNames = c'.pathNames) := by
  obtain ⟨place, placed⟩ := exists_place bare
  obtain ⟨pattern, known, segments, named, method, fills, spelled⟩ := c.exists_pattern
  obtain ⟨pattern', known', segments', named', method', fills', spelled'⟩ := c'.exists_pattern
  obtain ⟨_, _, made⟩ := requests.exists_request
  obtain ⟨_, _, made'⟩ := requests'.exists_request
  obtain ⟨url, parsed, hosted, asked, path⟩ := Client.parse_of_request made
  obtain ⟨url', parsed', hosted', asked', path'⟩ := Client.parse_of_request made'
  have clean := plain.isClean known fills spelled
  have clean' := plain'.isClean known' fills' spelled'
  -- behind the same place, the same path has the same segments
  have joined : joinSegments (segments.map (encoded reservedInPath)) =
      joinSegments (segments'.map (encoded reservedInPath)) := by
    rw [path, path', placed _ _ _ clean spelled parsed hosted, placed _ _ _ clean' spelled' parsed' hosted',
      joinSegments_append, joinSegments_append] at samePath
    exact List.append_cancel_left samePath
  have same : segments.map (encoded reservedInPath) = segments'.map (encoded reservedInPath) :=
    joinSegments_injective (clean.whole_encoded _) (clean'.whole_encoded _) joined
  have filled := fills.encoded (RoutePattern.isPlain_of_mem_all pattern known)
  have filled' := fills'.encoded (RoutePattern.isPlain_of_mem_all pattern' known')
  rw [← same] at filled'
  have sameMethod : pattern.method = pattern'.method := by
    rw [method, method', ← asked, ← asked', sameMethod]
  obtain rfl := RoutePattern.eq_of_overlap pattern known pattern' known' sameMethod (filled.overlap filled')
  have names := filled.names_unique filled'
  rw [List.map_map, List.map_map] at names
  refine ⟨named.symm.trans named', names, fun free => ?_⟩
  obtain ⟨free, free'⟩ := List.forall_mem_append.mp free
  exact encoded_names_injective free free' names

/-- A client of a server of its own. -/
def plainClient : Client := ⟨"http://localhost", "token"⟩

/-- Two changes of a cluster. -/
def pausing : ControlCall := .updateCluster "p" "a b" { paused := some true }

/-- The other one. -/
def resuming : ControlCall := .updateCluster "p" "a b" { paused := some false }

/-- Both go to one address, so they are changes of one cluster. -/
theorem changes_apart : ∃ request request', Requests plainClient pausing request ∧ Requests plainClient resuming request' ∧
    request.method = request'.method ∧ request.url.path = request'.url.path ∧
    pausing.name = resuming.name ∧ pausing.pathNames = resuming.pathNames := by
  obtain ⟨request, requests, method, path⟩ := exists_requests
    (show address plainClient pausing = some (.patch, "/api/atlas/v2/groups/p/clusters/a%20b".toList) by decide +kernel)
  obtain ⟨request', requests', method', path'⟩ := exists_requests
    (show address plainClient resuming = some (.patch, "/api/atlas/v2/groups/p/clusters/a%20b".toList) by decide +kernel)
  have sameMethod := method.trans method'.symm
  have samePath := path.trans path'.symm
  obtain ⟨kind, _, names⟩ := requests_apart (by decide) ⟨by decide, by decide, by decide⟩
    ⟨by decide, by decide, by decide⟩ requests requests' sameMethod samePath
  refine ⟨request, request', requests, requests', sameMethod, samePath, kind, names fun name member => ?_⟩
  apply not_hasEscape_of_not_mem
  revert name
  decide

/-! ## Names that collide -/

/-- Two calls with names make requests with one method and path, but are not about the same. -/
def Collide (client : Client) (c c' : ControlCall) : Prop :=
  (∀ name ∈ c.pathNames ++ c'.pathNames, name ≠ "") ∧ (c.name, c.pathNames) ≠ (c'.name, c'.pathNames) ∧
    ∃ request request', Requests client c request ∧ Requests client c' request' ∧ request.method = request'.method ∧
      request.url.path = request'.url.path

theorem collide_of_address_eq (named : ∀ name ∈ c.pathNames ++ c'.pathNames, name ≠ "")
    (other : (c.name, c.pathNames) ≠ (c'.name, c'.pathNames))
    (same : (address client c).isSome = true ∧ address client c = address client c') : Collide client c c' := by
  obtain ⟨known, same⟩ := same
  obtain ⟨⟨method, path⟩, known⟩ := Option.isSome_iff_exists.mp known
  obtain ⟨request, requests, rfl, rfl⟩ := exists_requests known
  obtain ⟨request', requests', method, path⟩ := exists_requests (same ▸ known)
  exact ⟨named, other, request, request', requests, requests', method.symm, path.symm⟩

/-- A name with a slash, as the path of something else, with a backslash, with a mark that ends the path, with a
character that is dropped, that leads to another place, with a blank at the end, with an escape; and any name behind a
base address with a mark that ends the path. -/
theorem names_collide :
    Collide plainClient (.deleteService "p" "s/endpoint/e") (.detachInterface "p" "s" "e") ∧
      Collide plainClient (.getCluster "p" "c\\backup\\exports") (.listExports "p" "c") ∧
      Collide plainClient (.deleteCluster "p" "a?b") (.deleteCluster "p" "a") ∧
      Collide plainClient (.deleteCluster "p" "a#b") (.deleteCluster "p" "a") ∧
      Collide plainClient (.deleteCluster "p" "a\tb") (.deleteCluster "p" "ab") ∧
      Collide plainClient (.updateProcessArgs "p" "." {}) (.updateCluster "p" "processArgs" {}) ∧
      Collide plainClient (.deleteCluster "p" "..") (.deleteProcessor "p" ".." "..") ∧
      Collide plainClient (.deleteCluster "p" "a ") (.deleteCluster "p" "a") ∧
      Collide plainClient (.deleteCluster "p" "a b") (.deleteCluster "p" "a%20b") ∧
      Collide ⟨"http://localhost?x", "token"⟩ (.deleteCluster "p" "a") (.deleteCluster "p" "b") ∧
      Collide ⟨"http://localhost#x", "token"⟩ (.deleteCluster "p" "a") (.deleteCluster "p" "b") := by
  refine ⟨?_, ?_, ?_, ?_, ?_, ?_, ?_, ?_, ?_, ?_, ?_⟩ <;>
    exact collide_of_address_eq (by decide) (by decide) (by decide +kernel)

end ControlPlane
end Provisioner
