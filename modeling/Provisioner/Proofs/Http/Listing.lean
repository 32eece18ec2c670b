import Provisioner.Proofs.Http.Requests
import Mathlib.Algebra.Order.Floor.Div

/-!
# Complete listings

Against a server that answers every request for a page with that page, a list comes out as it is there: after as many
requests as it has pages, one at least, for one page after the other (`ControlPlane.paged_complete`). The size of the
pages is up to the server. A request that fails is the last one, and nothing but its error comes out.
-/
namespace Provisioner
open Http

/-! ## Pages -/

attribute [ext] Page

/-- A page of a list that is cut into pages of some size: the one after some others, with the length of the list. -/
structure Page.IsPageOf {α : Type} (page : Page α) (items : List α) (size index : Nat) : Prop where
  results : page.results = (items.drop (index * size)).take size
  totalCount : page.totalCount.toNat = items.length

namespace Page.IsPageOf
variable {α : Type} {page : Page α} {items : List α} {size index : Nat} (isPage : page.IsPageOf items size index)
include isPage

/-- A page continues the pages before it. -/
theorem take_append : items.take (index * size) ++ page.results = items.take ((index + 1) * size) := by
  rw [isPage.results, ← List.take_add, Nat.succ_mul]

/-- A page is the last one where the list ends, also if it is empty. -/
theorem isLast_iff (sized : 0 < size) :
    Listing.isLast (items.take (index * size)) page = true ↔ items.length ≤ (index + 1) * size := by
  have empty : page.results = [] ↔ items.length ≤ index * size := by
    rw [isPage.results, List.take_eq_nil_iff, List.drop_eq_nil_iff]
    omega
  have length : page.results.length = min size (items.length - index * size) := by
    rw [isPage.results, List.length_take, List.length_drop]
  rw [Listing.isLast, Bool.or_eq_true, List.isEmpty_iff, empty, decide_eq_true_eq, isPage.totalCount, List.length_take,
    length, Nat.succ_mul]
  omega

end Page.IsPageOf

/-- How many pages of a size are asked for to get some items. -/
def Listing.pageCount (items size : Nat) : Nat :=
  max 1 (items ⌈/⌉ size)

/-- A page is the last one where all pages have been asked for. -/
theorem Listing.pageCount_le_iff {items size index : Nat} (sized : 0 < size) :
    pageCount items size ≤ index + 1 ↔ items ≤ (index + 1) * size := by
  rw [pageCount, max_le_iff, ceilDiv_le_iff_le_mul sized, Nat.mul_comm]
  omega

namespace ControlPlane
variable {ε α : Type} {client : Client} {c : ControlCall} {item : Shape α} {number index size : Nat}
  {collected items : List α} {trace : Trace Web} {result : Except ε (Except GatewayError (List α))}

/-! ## Requests for pages -/

/-- The request for a page. -/
def pageRequest (client : Client) (c : ControlCall) (number : Nat) : Except GatewayError Request :=
  client.request c.route.method c.route.path (Listing.parameters number) none

/-- A request is for one page only. -/
theorem pageRequest_injective {number' : Nat} {request : Request} (made : pageRequest client c number = .ok request)
    (made' : pageRequest client c number' = .ok request) : number = number' := by
  obtain ⟨url, parsed, _, _, _, rfl⟩ := Client.request_eq_ok.mp made
  obtain ⟨url', parsed', _, _, _, same⟩ := Client.request_eq_ok.mp made'
  obtain rfl := Except.ok.inj (parsed.symm.trans parsed')
  have queries := Url.addQuery_injective (congrArg Request.url same)
  have digits : Nat.toDigits 10 number = Nat.toDigits 10 number' := by
    simpa [Listing.parameters, Text.joined] using queries
  rw [← Nat.ofDigitChars_ten_toDigits (n := number), digits, Nat.ofDigitChars_ten_toDigits]

/-- If the first page can be asked for, every page can be. -/
theorem exists_pageRequest (addressed : ∃ request, pageRequest client c 1 = .ok request) (number : Nat) :
    ∃ request, pageRequest client c number = .ok request :=
  (Client.exists_request_iff _ _ _ _).mp addressed

/-! ## One page after the other -/

/-- What remains of a listing once the items of the pages before a page have come. -/
def pagesFrom (client : Client) (c : ControlCall) (item : Shape α) (number : Nat) (collected : List α) :
    Program Web ε (Except GatewayError (List α)) :=
  Listing.collect
    (fun pageNumber =>
      client.fetch c.route.method c.route.path (Listing.parameters pageNumber) none (Listing.shape item))
    number collected

/-- What remains of it once a page was answered. -/
def afterPage (client : Client) (c : ControlCall) (item : Shape α) (number : Nat) (collected : List α) :
    Except GatewayError (Listing α) → Program Web ε (Except GatewayError (List α))
  | .error error => .done (.error error)
  | .ok (.whole items) => .done (.ok items)
  | .ok (.part page) =>
    if Listing.isLast collected page then .done (.ok (collected ++ page.results))
    else pagesFrom client c item (number + 1) (collected ++ page.results)

theorem pagesFrom_eq : (pagesFrom client c item number collected : Program Web ε _) =
    client.fetch c.route.method c.route.path (Listing.parameters number) none (Listing.shape item) >>=
      afterPage client c item number collected := by
  rw [pagesFrom, Listing.collect]
  congr 1

/-- A page that cannot be asked for ends a listing. Else it goes on as the reply to the request for it is read. -/
theorem ends_pagesFrom (ends : (pagesFrom client c item number collected : Program Web ε _).Ends trace result) :
    (∃ error, pageRequest client c number = .error error ∧ trace = [] ∧ result = .ok (.error error)) ∨
      ∃ request reply answer rest, pageRequest client c number = .ok request ∧ trace = ⟨request, reply⟩ :: rest ∧
        Client.Reads (Listing.shape item) request reply answer ∧
        (afterPage client c item number collected answer : Program Web ε _).Ends rest result := by
  rw [pagesFrom_eq, Program.ends_bind] at ends
  rcases ends with ⟨error, failed, rfl⟩ | ⟨answer, before, rest, asked, later, rfl⟩
  · rcases Client.ends_fetch.mp failed with ⟨_, _, _, ⟨⟩⟩ | ⟨_, _, _, _, _, _, ⟨⟩⟩
  · rcases Client.ends_fetch.mp asked with ⟨error, unmade, rfl, ⟨⟩⟩ | ⟨request, reply, _, made, rfl, reads, ⟨⟩⟩
    · obtain ⟨rfl, rfl⟩ := Program.ends_done.mp later
      exact .inl ⟨error, unmade, rfl, rfl⟩
    · exact .inr ⟨request, reply, answer, rest, made, rfl, reads, later⟩

/-- After a reply, either a listing is over, or the reply was a page and the next one is asked for. -/
theorem ends_afterPage {answer : Except GatewayError (Listing α)}
    (ends : (afterPage client c item number collected answer : Program Web ε _).Ends trace result) :
    trace = [] ∨ ∃ page, answer = .ok (.part page) ∧
      (pagesFrom client c item (number + 1) (collected ++ page.results) : Program Web ε _).Ends trace result := by
  rcases answer with _ | _ | page
  · exact .inl (Program.ends_done.mp ends).1
  · exact .inl (Program.ends_done.mp ends).1
  · rw [afterPage] at ends
    split at ends
    · exact .inl (Program.ends_done.mp ends).1
    · exact .inr ⟨page, rfl, ends⟩

/-- All requests of a listing are for pages. -/
theorem pageRequest_of_pagesFrom (ends : (pagesFrom client c item number collected : Program Web ε _).Ends trace result)
    {answered : Answered Web} (member : answered ∈ trace) : ∃ number, pageRequest client c number = .ok answered.call := by
  induction trace generalizing number collected with
  | nil => cases member
  | cons first rest ih =>
    rcases ends_pagesFrom ends with ⟨_, _, ⟨⟩, _⟩ | ⟨request, reply, answer, _, made, ⟨⟩, _, later⟩
    rcases List.mem_cons.mp member with rfl | member
    · exact ⟨number, made⟩
    · rcases ends_afterPage later with rfl | ⟨_, _, later⟩
      · cases member
      · exact ih later member

/-- A request that fails is the last one, and its error is the result. -/
theorem pagesFrom_failed (ends : (pagesFrom client c item number collected : Program Web ε _).Ends trace result)
    {answered : Answered Web} (member : answered ∈ trace) {error : GatewayError}
    (failed : Client.Reads (Listing.shape item) answered.call answered.answer (.error error)) :
    result = .ok (.error error) ∧ ∃ before, trace = before ++ [answered] := by
  induction trace generalizing number collected with
  | nil => cases member
  | cons first rest ih =>
    rcases ends_pagesFrom ends with ⟨_, _, ⟨⟩, _⟩ | ⟨request, reply, answer, _, made, ⟨⟩, reads, later⟩
    rcases List.mem_cons.mp member with rfl | member
    · obtain rfl := failed.unique reads
      obtain ⟨rfl, rfl⟩ := Program.ends_done.mp later
      exact ⟨rfl, [], rfl⟩
    · rcases ends_afterPage later with rfl | ⟨_, _, later⟩
      · cases member
      · obtain ⟨same, before, rfl⟩ := ih later member
        exact ⟨same, _ :: before, rfl⟩

/-- Every request for a page is answered with that page. -/
def Honest (client : Client) (c : ControlCall) (item : Shape α) (items : List α) (size : Nat) (trace : Trace Web) :
    Prop :=
  ∀ answered ∈ trace, ∀ index, pageRequest client c (index + 1) = .ok answered.call →
    ∃ page, Client.Reads (Listing.shape item) answered.call answered.answer (.ok (.part page)) ∧
      page.IsPageOf items size index

/-- From a page on, all pages are asked for in order, and all items of the list come out. -/
theorem pagesFrom_complete (sized : 0 < size) (addressed : ∃ request, pageRequest client c 1 = .ok request)
    (honest : Honest client c item items size trace) (more : index < Listing.pageCount items.length size)
    (ends : (pagesFrom client c item (index + 1) (items.take (index * size)) : Program Web ε _).Ends trace result) :
    result = .ok (.ok items) ∧
      trace.map (fun answered => Except.ok answered.call) =
        (List.range' index (Listing.pageCount items.length size - index)).map fun index =>
          pageRequest client c (index + 1) := by
  induction trace generalizing index with
  | nil =>
    obtain ⟨request, made⟩ := exists_pageRequest addressed (index + 1)
    rcases ends_pagesFrom ends with ⟨error, unmade, _⟩ | ⟨_, _, _, _, _, ⟨⟩, _⟩
    cases made.symm.trans unmade
  | cons first rest ih =>
    rcases ends_pagesFrom ends with ⟨_, _, ⟨⟩, _⟩ | ⟨request, reply, answer, _, made, ⟨⟩, reads, later⟩
    obtain ⟨page, reads', isPage⟩ := honest _ List.mem_cons_self index made
    obtain rfl := reads.unique reads'
    rw [afterPage, isPage.take_append] at later
    by_cases last : items.length ≤ (index + 1) * size
    · rw [if_pos ((isPage.isLast_iff sized).mpr last)] at later
      obtain ⟨rfl, rfl⟩ := Program.ends_done.mp later
      have one : Listing.pageCount items.length size - index = 1 := by
        have := (Listing.pageCount_le_iff sized).mpr last
        omega
      rw [List.take_of_length_le last, one]
      exact ⟨rfl, congrArg (· :: []) made.symm⟩
    · rw [if_neg (mt (isPage.isLast_iff sized).mp last)] at later
      have more : index + 1 < Listing.pageCount items.length size := by
        rw [← Listing.pageCount_le_iff sized] at last
        omega
      obtain ⟨same, calls⟩ := ih (fun answered member => honest answered (List.mem_cons_of_mem _ member)) more later
      refine ⟨same, ?_⟩
      have next : Listing.pageCount items.length size - index = Listing.pageCount items.length size - (index + 1) + 1 := by
        omega
      rw [List.map_cons, calls, next, List.range'_succ, List.map_cons, made]

/-- A listing ends whatever the server is. If its pages are asked for at all and every request for a page is answered
with that page, the whole list comes out, and the requests are those for its pages, in order and each once. If a page
cannot be asked for or a request fails, its error comes out, and no request is made after it. -/
theorem paged_complete (client : Client) (c : ControlCall) (item : Shape α) :
    (∀ server : Request → Reply, ∃ trace result, (paged client c item : Program Web ε _).Ends trace result ∧
      ∀ answered ∈ trace, answered.answer = server answered.call) ∧
    ∀ trace result, (paged client c item : Program Web ε _).Ends trace result →
      (∀ items size, 0 < size → (∃ request, pageRequest client c 1 = .ok request) →
        Honest client c item items size trace →
        result = .ok (.ok items) ∧
          trace.map (fun answered => Except.ok answered.call) =
            (List.range (max 1 (items.length ⌈/⌉ size))).map fun index => pageRequest client c (index + 1)) ∧
      (∀ error, pageRequest client c 1 = .error error → trace = [] ∧ result = .ok (.error error)) ∧
      ∀ answered ∈ trace, ∀ error,
        Client.Reads (Listing.shape item) answered.call answered.answer (.error error) →
        result = .ok (.error error) ∧ ∃ before, trace = before ++ [answered] := by
  refine ⟨fun server => Program.exists_ends (ι := Web) server _, ?_⟩
  intro trace result ends
  have ends : (pagesFrom client c item 1 [] : Program Web ε _).Ends trace result := ends
  refine ⟨?_, ?_, ?_⟩
  · intro items size sized addressed honest
    have first : 0 < Listing.pageCount items.length size := Nat.lt_of_lt_of_le Nat.zero_lt_one (le_max_left _ _)
    have start : items.take (0 * size) = [] := by simp
    rw [List.range_eq_range']
    exact pagesFrom_complete sized addressed honest first (by rwa [start])
  · intro error unmade
    rcases ends_pagesFrom ends with ⟨_, unmade', rfl, rfl⟩ | ⟨_, _, _, _, made, _⟩
    · cases unmade.symm.trans unmade'
      exact ⟨rfl, rfl⟩
    · cases unmade.symm.trans made
  · intro answered member error failed
    exact pagesFrom_failed ends member failed

/-- Three letters, in pages of two. -/
def letters : List String := ["a", "b", "c"]

/-- A page of the letters. -/
def letterPage (index : Nat) : Page String :=
  ⟨(letters.drop (index * 2)).take 2, 3⟩

/-- The answer with a page of the letters. -/
def letterReply (index : Nat) : Reply :=
  .answered 200 ((Page.shape .string).write (letterPage index)).text

/-- The client reads that answer as that page. -/
def isLetterPage (index : Nat) : Bool :=
  match letterReply index with
  | .answered _ body =>
    match Client.decode (Listing.shape .string) (Client.withoutMark body) with
    | .ok (.part page) => page.results = (letterPage index).results ∧ page.totalCount = (letterPage index).totalCount
    | _ => false
  | _ => false

theorem reads_letterReply (request : Request) {index : Nat} (spelled : isLetterPage index = true) :
    Client.Reads (Listing.shape .string) request (letterReply index) (.ok (.part (letterPage index))) := by
  unfold isLetterPage at spelled
  dsimp only [letterReply] at spelled ⊢
  split at spelled
  · next page decoded =>
    obtain ⟨results, totalCount⟩ := of_decide_eq_true spelled
    obtain rfl : page = letterPage index := Page.ext results totalCount
    rw [← decoded]
    exact Client.reads_answered _ request _ (by decide)
  · cases spelled

/-- A client of a server that lists the letters. -/
def letterClient : Client := ⟨"http://localhost", "token"⟩

/-- The server. All pages after the letters are the same empty one. -/
def letterServer (request : Request) : Reply :=
  if (pageRequest letterClient (.listClusters "p") 1).toOption = some request then letterReply 0
  else if (pageRequest letterClient (.listClusters "p") 2).toOption = some request then letterReply 1
  else letterReply 2

theorem letterServer_eq {request : Request}
    (made : pageRequest letterClient (.listClusters "p") (index + 1) = .ok request) :
    letterServer request = letterReply (min index 2) := by
  have only (number : Nat) :
      (pageRequest letterClient (.listClusters "p") number).toOption = some request ↔ number = index + 1 := by
    constructor
    · intro same
      cases other : pageRequest letterClient (.listClusters "p") number with
      | error => simp [other, Except.toOption] at same
      | ok request' =>
        rw [other] at same
        obtain rfl := Option.some.inj same
        exact pageRequest_injective other made
    · rintro rfl
      rw [made]
      rfl
  simp only [letterServer, only]
  rcases index with _ | _ | index
  · rfl
  · rfl
  · simp

/-- All letters come out, after two requests. -/
theorem letters_complete : ∃ trace,
    (paged letterClient (.listClusters "p") .string : Program Web Empty _).Ends trace (.ok (.ok ["a", "b", "c"])) ∧
      trace.map (fun answered => Except.ok answered.call) =
        [pageRequest letterClient (.listClusters "p") 1, pageRequest letterClient (.listClusters "p") 2] := by
  obtain ⟨ending, all⟩ := paged_complete (ε := Empty) letterClient (.listClusters "p") .string
  obtain ⟨trace, result, ends, answers⟩ := ending letterServer
  have addressed : ∃ request, pageRequest letterClient (.listClusters "p") 1 = .ok request := by
    have made : (pageRequest letterClient (.listClusters "p") 1).toOption.isSome = true := by
      decide +kernel
    cases made' : pageRequest letterClient (.listClusters "p") 1 with
    | error => simp [made', Except.toOption] at made
    | ok request => exact ⟨request, rfl⟩
  have spelled : ∀ index < 3, isLetterPage index = true := by
    decide +kernel
  have honest : Honest letterClient (.listClusters "p") .string letters 2 trace := by
    intro answered member index made
    rw [answers answered member, letterServer_eq made]
    refine ⟨_, reads_letterReply _ (spelled _ (by omega)), ?_, rfl⟩
    rcases index with _ | _ | index
    · rfl
    · rfl
    · have beyond : letters.length ≤ (index + 2) * 2 := by
        simp only [letters, List.length_cons, List.length_nil]
        omega
      rw [Nat.min_eq_right (by omega), List.drop_eq_nil_of_le beyond]
      rfl
  obtain ⟨rfl, calls⟩ := (all trace result ends).1 letters 2 (by decide) addressed honest
  exact ⟨trace, ends, calls⟩

end ControlPlane
end Provisioner
