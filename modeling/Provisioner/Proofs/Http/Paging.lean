import Provisioner.Proofs.Http.Listing

/-!
# Listings against any server

A server may answer a request for a page with anything. How a listing goes on after each answer is said once
(`ControlPlane.Collects`, `ControlPlane.ends_pagesFrom_iff`). All items that were answered come out, but for those that
come before an array (`ControlPlane.paged_lossless`). Every page that another follows brings an item and says that there
are more than have come, so a bound on what the pages say bounds the requests, and no page is asked for twice
(`ControlPlane.paged_bounded`).
-/
namespace Provisioner
open Http

/-! ## Answers that make up a list -/

namespace Listing
variable {α : Type} {collected listed all : List α} {page : Page α} {answers : List (Listing α)}

/-- The items of an answer. -/
def items : Listing α → List α
  | whole items => items
  | part page => page.results

theorem isLast_eq_false_iff : isLast collected page = false ↔
    page.results ≠ [] ∧ collected.length + page.results.length < page.totalCount.toNat := by
  simp [isLast]

/-- After some items, a listing that gets these answers comes to a list. -/
inductive MakesUp : List α → List (Listing α) → List α → Prop
  | whole {collected all : List α} : MakesUp collected [.whole all] all
  | last {collected : List α} {page : Page α} (last : isLast collected page = true) :
      MakesUp collected [.part page] (collected ++ page.results)
  | more {collected listed : List α} {page : Page α} {answers : List (Listing α)} (more : isLast collected page = false)
      (later : MakesUp (collected ++ page.results) answers listed) : MakesUp collected (.part page :: answers) listed

namespace MakesUp

/-- Pages are put together. -/
theorem eq_append (makes : MakesUp collected answers listed) (paged : ∀ all, .whole all ∉ answers) :
    listed = collected ++ answers.flatMap Listing.items := by
  induction makes with
  | @whole _ all => exact absurd List.mem_cons_self (paged all)
  | last => simp [Listing.items]
  | more _ _ ih =>
    rw [ih fun all member => paged all (List.mem_cons_of_mem _ member), List.append_assoc]
    rfl

/-- An array is all that comes out, whatever came before it. -/
theorem eq_of_mem (makes : MakesUp collected answers listed) (member : .whole all ∈ answers) : listed = all := by
  induction makes with
  | whole =>
    cases List.mem_singleton.mp member
    rfl
  | last => cases List.mem_singleton.mp member
  | more _ _ ih => exact ih (by simpa using member)

/-- Nothing is lost, unless an array comes after a page. -/
theorem eq_flatMap_iff (makes : MakesUp [] answers listed) :
    listed = answers.flatMap Listing.items ↔ ∀ all, .whole all ∉ answers.tail := by
  cases makes with
  | whole => simp [Listing.items]
  | last => simp [Listing.items]
  | @more _ _ page answers more later =>
    constructor
    · -- The page has items, so with them there are more than those of the array.
      intro same all member
      obtain rfl := later.eq_of_mem member
      have brought : 0 < page.results.length := List.length_pos_iff.mpr (isLast_eq_false_iff.mp more).1
      have behind : listed ∈ answers.map Listing.items := List.mem_map.mpr ⟨_, member, rfl⟩
      have least : listed.length ≤ (answers.flatMap Listing.items).length := by
        rw [List.flatMap_def]
        exact (List.sublist_flatten_of_mem behind).length_le
      have total : listed.length = page.results.length + (answers.flatMap Listing.items).length :=
        (congrArg List.length same).trans List.length_append
      omega
    · intro paged
      rw [later.eq_append paged]
      rfl

end MakesUp
end Listing

namespace ControlPlane
variable {ε α : Type} {client : Client} {c : ControlCall} {item : Shape α} {number : Nat} {collected : List α}
  {trace : Trace Web}

/-! ## How a listing goes on -/

/-- From the number of a page and the items that have come before it, a listing sends some requests, gets their replies,
and comes to an outcome. -/
inductive Collects (client : Client) (c : ControlCall) (item : Shape α) :
    Nat → List α → Trace Web → Except GatewayError (List α) → Prop
  | unmade {number : Nat} {collected : List α} {error : GatewayError}
      (unmade : pageRequest client c number = .error error) : Collects client c item number collected [] (.error error)
  | failed {number : Nat} {collected : List α} {answered : Answered Web} {error : GatewayError}
      (made : pageRequest client c number = .ok answered.call)
      (reads : Client.Reads (Listing.shape item) answered.call answered.answer (.error error)) :
      Collects client c item number collected [answered] (.error error)
  | whole {number : Nat} {collected items : List α} {answered : Answered Web}
      (made : pageRequest client c number = .ok answered.call)
      (reads : Client.Reads (Listing.shape item) answered.call answered.answer (.ok (.whole items))) :
      Collects client c item number collected [answered] (.ok items)
  | last {number : Nat} {collected : List α} {answered : Answered Web} {page : Page α}
      (made : pageRequest client c number = .ok answered.call)
      (reads : Client.Reads (Listing.shape item) answered.call answered.answer (.ok (.part page)))
      (last : Listing.isLast collected page = true) :
      Collects client c item number collected [answered] (.ok (collected ++ page.results))
  | more {number : Nat} {collected : List α} {answered : Answered Web} {page : Page α} {rest : Trace Web}
      {outcome : Except GatewayError (List α)} (made : pageRequest client c number = .ok answered.call)
      (reads : Client.Reads (Listing.shape item) answered.call answered.answer (.ok (.part page)))
      (more : Listing.isLast collected page = false)
      (later : Collects client c item (number + 1) (collected ++ page.results) rest outcome) :
      Collects client c item number collected (answered :: rest) outcome

theorem pagesFrom_of_unmade {error : GatewayError} (unmade : pageRequest client c number = .error error) :
    (pagesFrom client c item number collected : Program Web ε _).Ends [] (.ok (.error error)) := by
  rw [pagesFrom_eq, Program.ends_bind]
  exact .inr ⟨.error error, [], [], Client.ends_fetch.mpr (.inl ⟨error, unmade, rfl, rfl⟩), .done _, rfl⟩

theorem pagesFrom_of_reads {answered : Answered Web} {rest : Trace Web} {answer : Except GatewayError (Listing α)}
    {result : Except ε (Except GatewayError (List α))} (made : pageRequest client c number = .ok answered.call)
    (reads : Client.Reads (Listing.shape item) answered.call answered.answer answer)
    (later : (afterPage client c item number collected answer : Program Web ε _).Ends rest result) :
    (pagesFrom client c item number collected : Program Web ε _).Ends (answered :: rest) result := by
  rw [pagesFrom_eq, Program.ends_bind]
  have asked := Client.ends_fetch (ε := ε).mpr (.inr ⟨_, _, _, made, rfl, reads, rfl⟩)
  exact .inr ⟨answer, [answered], rest, asked, later, rfl⟩

/-- A listing ends as it collects. -/
theorem ends_pagesFrom_iff {result : Except ε (Except GatewayError (List α))} :
    (pagesFrom client c item number collected : Program Web ε _).Ends trace result ↔
      ∃ outcome, result = .ok outcome ∧ Collects client c item number collected trace outcome := by
  constructor
  · intro ends
    induction trace generalizing number collected with
    | nil =>
      rcases ends_pagesFrom ends with ⟨error, unmade, _, rfl⟩ | ⟨_, _, _, _, _, ⟨⟩, _⟩
      exact ⟨_, rfl, .unmade unmade⟩
    | cons first rest ih =>
      rcases ends_pagesFrom ends with ⟨_, _, ⟨⟩, _⟩ | ⟨request, reply, answer, _, made, ⟨⟩, reads, later⟩
      rcases answer with error | items | page
      · obtain ⟨rfl, rfl⟩ := Program.ends_done.mp later
        exact ⟨_, rfl, .failed made reads⟩
      · obtain ⟨rfl, rfl⟩ := Program.ends_done.mp later
        exact ⟨_, rfl, .whole made reads⟩
      · rw [afterPage] at later
        split at later
        · next last =>
          obtain ⟨rfl, rfl⟩ := Program.ends_done.mp later
          exact ⟨_, rfl, .last made reads last⟩
        · next more =>
          obtain ⟨outcome, same, collects⟩ := ih later
          exact ⟨outcome, same, .more made reads (eq_false_of_ne_true more) collects⟩
  · rintro ⟨outcome, rfl, collects⟩
    induction collects with
    | unmade unmade => exact pagesFrom_of_unmade unmade
    | failed made reads => exact pagesFrom_of_reads made reads (.done _)
    | whole made reads => exact pagesFrom_of_reads made reads (.done _)
    | last made reads last =>
      refine pagesFrom_of_reads made reads ?_
      rw [afterPage, if_pos last]
      exact .done _
    | more made reads more _ ih =>
      refine pagesFrom_of_reads made reads ?_
      rw [afterPage, if_neg (ne_true_of_eq_false more)]
      exact ih

/-! ## Answers of a trace -/

/-- The replies of a trace are read as these answers. -/
def Brings (item : Shape α) (trace : Trace Web) (answers : List (Listing α)) : Prop :=
  List.Forall₂ (fun answered answer =>
    Client.Reads (Listing.shape item) answered.call answered.answer (.ok answer)) trace answers

theorem Brings.unique {answers answers' : List (Listing α)} (brings : Brings item trace answers)
    (brings' : Brings item trace answers') : answers = answers' := by
  induction brings generalizing answers' with
  | nil =>
    cases brings'
    rfl
  | cons reads _ ih =>
    cases brings' with
    | cons reads' later =>
      obtain rfl := Except.ok.inj (reads.unique reads')
      rw [ih later]

/-- What holds of all pages among the answers holds of every page that a reply is read as. -/
theorem Brings.forall_page {P : Page α → Prop} {answers : List (Listing α)} (brings : Brings item trace answers)
    (all : ∀ page, .part page ∈ answers → P page) : ∀ answered ∈ trace, ∀ page,
      Client.Reads (Listing.shape item) answered.call answered.answer (.ok (.part page)) → P page := by
  induction brings with
  | nil => simp
  | cons reads _ ih =>
    refine List.forall_mem_cons.mpr ⟨?_, ih fun page member => all page (List.mem_cons_of_mem _ member)⟩
    intro page reads'
    obtain rfl := Except.ok.inj (reads.unique reads')
    exact all page List.mem_cons_self

/-- Any answers that make up a list are possible, if they are the answers of some replies. -/
theorem exists_collects (addressed : ∃ request, pageRequest client c 1 = .ok request) {items : List α}
    {answers : List (Listing α)} (makes : Listing.MakesUp collected answers items)
    (replies : ∀ answer ∈ answers, ∃ reply, ∀ request, Client.Reads (Listing.shape item) request reply (.ok answer)) :
    ∃ trace, Collects client c item number collected trace (.ok items) ∧ Brings item trace answers := by
  obtain ⟨request, made⟩ := exists_pageRequest addressed number
  induction makes generalizing number request with
  | whole =>
    obtain ⟨reply, reads⟩ := replies _ List.mem_cons_self
    exact ⟨[⟨request, reply⟩], .whole made (reads request), .cons (reads request) .nil⟩
  | last last =>
    obtain ⟨reply, reads⟩ := replies _ List.mem_cons_self
    exact ⟨[⟨request, reply⟩], .last made (reads request) last, .cons (reads request) .nil⟩
  | more more _ ih =>
    obtain ⟨reply, reads⟩ := replies _ List.mem_cons_self
    obtain ⟨next, made'⟩ := exists_pageRequest addressed (number + 1)
    have replies' := fun answer member => replies answer (List.mem_cons_of_mem _ member)
    obtain ⟨rest, collects, brings⟩ := ih replies' next made'
    exact ⟨⟨request, reply⟩ :: rest, .more made (reads request) more collects, .cons (reads request) brings⟩

namespace Collects
variable {outcome : Except GatewayError (List α)} (collects : Collects client c item number collected trace outcome)
include collects

/-- If all replies are listings, a listing comes to items. -/
theorem exists_items (addressed : ∃ request, pageRequest client c 1 = .ok request) {answers : List (Listing α)}
    (brings : Brings item trace answers) : ∃ items, outcome = .ok items := by
  induction collects generalizing answers with
  | @unmade number _ _ unmade =>
    obtain ⟨request, made⟩ := exists_pageRequest addressed number
    cases made.symm.trans unmade
  | failed _ failed =>
    cases brings with
    | cons reads _ => cases failed.unique reads
  | whole | last => exact ⟨_, rfl⟩
  | more _ _ _ _ ih =>
    cases brings with
    | cons _ later => exact ih later

/-- Whatever a listing comes to, the answers that it got make it up. -/
theorem exists_answers {items : List α} (listed : outcome = .ok items) :
    ∃ answers, Brings item trace answers ∧ Listing.MakesUp collected answers items := by
  induction collects with
  | unmade | failed => cases listed
  | whole _ reads =>
    cases listed
    exact ⟨_, .cons reads .nil, .whole⟩
  | last _ reads last =>
    cases listed
    exact ⟨_, .cons reads .nil, .last last⟩
  | more _ reads more _ ih =>
    obtain ⟨answers, brings, makes⟩ := ih listed
    exact ⟨_, .cons reads brings, .more more makes⟩

end Collects

/-! ## Letters -/

deriving instance DecidableEq for Page, Listing

/-- What the client reads in a document. -/
def lettersIn? (document : Json) : Option (Listing String) :=
  (Client.decode (Listing.shape .string) (Client.withoutMark document.text)).toOption

/-- A page of letters, with its other fields. -/
def pageOfLetters (letters : List String) (others : Fields) : Json :=
  .object (("results", .array (letters.map .string)) :: others)

theorem exists_reply_of_lettersIn? {document : Json} {answer : Listing String}
    (spelled : lettersIn? document = some answer) :
    ∃ reply, ∀ request, Client.Reads (Listing.shape .string) request reply (.ok answer) := by
  have success : isSuccess 200 = true := by decide
  refine ⟨.answered 200 document.text, fun request => ?_⟩
  have reads := Client.reads_answered (Listing.shape .string) request document.text success
  unfold lettersIn? at spelled
  cases decoded : Client.decode (Listing.shape .string) (Client.withoutMark document.text) with
  | error => simp [decoded, Except.toOption] at spelled
  | ok found =>
    rw [decoded] at reads spelled
    obtain rfl := Option.some.inj spelled
    exact reads

theorem letters_addressed : ∃ request, pageRequest letterClient (.listClusters "p") 1 = .ok request := by
  have made : (pageRequest letterClient (.listClusters "p") 1).toOption.isSome = true := by
    decide +kernel
  cases made' : pageRequest letterClient (.listClusters "p") 1 with
  | error => simp [made', Except.toOption] at made
  | ok request => exact ⟨request, rfl⟩

/-- If documents are read as answers that make up a list of letters, a listing can get them. -/
theorem exists_letterListing (documents : List Json) {answers : List (Listing String)} {items : List String}
    (spelled : documents.map lettersIn? = answers.map some) (makes : Listing.MakesUp [] answers items) : ∃ trace,
      (paged letterClient (.listClusters "p") .string : Program Web Empty _).Ends trace (.ok (.ok items)) ∧
        Brings .string trace answers := by
  have replies : ∀ answer ∈ answers, ∃ reply, ∀ request,
      Client.Reads (Listing.shape .string) request reply (.ok answer) := by
    intro answer member
    obtain ⟨document, _, read⟩ := List.mem_map.mp (spelled ▸ List.mem_map_of_mem member)
    exact exists_reply_of_lettersIn? read
  obtain ⟨trace, collects, brings⟩ := exists_collects letters_addressed makes replies
  exact ⟨trace, ends_pagesFrom_iff.mpr ⟨_, rfl, collects⟩, brings⟩

/-! ## Requests -/

namespace Collects
variable {outcome : Except GatewayError (List α)} (collects : Collects client c item number collected trace outcome)
include collects

/-- The requests are for one page after the other. -/
theorem calls : trace.map (fun answered => Except.ok answered.call) =
    (List.range' number trace.length).map (pageRequest client c) := by
  induction collects with
  | unmade => rfl
  | failed made | whole made | last made => exact congrArg (· :: []) made.symm
  | more made _ _ _ ih => rw [List.map_cons, ih, List.length_cons, List.range'_succ, List.map_cons, made]

/-- No page is asked for twice. -/
theorem nodup_calls : (trace.map fun answered => answered.call).Nodup := by
  have all := collects.calls
  have distinct : ((List.range' number trace.length).map (pageRequest client c)).Nodup := by
    refine List.Nodup.map_on ?_ List.nodup_range'
    intro index member index' _ same
    have asked : pageRequest client c index ∈ trace.map fun answered => Except.ok answered.call :=
      all ▸ List.mem_map_of_mem member
    obtain ⟨answered, _, made⟩ := List.mem_map.mp asked
    exact pageRequest_injective made.symm (same ▸ made.symm)
  rw [← all] at distinct
  refine List.Nodup.of_map (Except.ok (ε := GatewayError)) ?_
  rw [List.map_map]
  exact distinct

/-- Every page that another follows brings an item, and says that there are more than have come. -/
theorem length_le {bound : Nat} (within : ∀ answered ∈ trace, ∀ page,
      Client.Reads (Listing.shape item) answered.call answered.answer (.ok (.part page)) →
        page.totalCount.toNat ≤ bound) : trace.length ≤ max 1 (bound - collected.length) := by
  induction collects with
  | unmade => exact Nat.zero_le _
  | failed | whole | last => exact le_max_left _ _
  | more _ reads more _ ih =>
    obtain ⟨something, awaited⟩ := Listing.isLast_eq_false_iff.mp more
    have said := within _ List.mem_cons_self _ reads
    have later := ih fun answered member => within answered (List.mem_cons_of_mem _ member)
    have brought := List.length_pos_iff.mpr something
    rw [List.length_append] at later
    rw [List.length_cons]
    omega

end Collects

/-- A listing ends whatever a server says that remembers what it was asked. If no page of it says that there are more
items than some bound, the listing sends at most that many requests, or the one for the first page. They are for one
page after the other, no page is asked for twice, and the numbers of all pages fit 31 bits. -/
theorem paged_bounded (client : Client) (c : ControlCall) (item : Shape α) :
    (∀ server : Trace Web → Request → Reply, ∃ trace result,
      (paged client c item : Program Web ε _).Ends trace result ∧ Program.AnsweredBy (ι := Web) server trace) ∧
    ∀ trace result, (paged client c item : Program Web ε _).Ends trace result → ∀ bound < 2 ^ 31,
      (∀ answered ∈ trace, ∀ page,
        Client.Reads (Listing.shape item) answered.call answered.answer (.ok (.part page)) →
          page.totalCount.toNat ≤ bound) →
      trace.length ≤ max 1 bound ∧ trace.length < 2 ^ 31 ∧
        trace.map (fun answered => Except.ok answered.call) =
          (List.range' 1 trace.length).map (pageRequest client c) ∧
        (trace.map fun answered => answered.call).Nodup := by
  refine ⟨fun server => Program.exists_ends_answeredBy (ι := Web) server _, ?_⟩
  intro trace result ends bound small within
  obtain ⟨outcome, _, collects⟩ := ends_pagesFrom_iff.mp ends
  have few : trace.length ≤ max 1 bound := collects.length_le within
  exact ⟨few, by omega, collects.calls, collects.nodup_calls⟩

/-- A list that grows while it is read: a letter a page, and one more is said to come until there are three. -/
theorem growing_bounded : ∃ trace,
    (paged letterClient (.listClusters "p") .string : Program Web Empty _).Ends trace (.ok (.ok ["a", "b", "c"])) ∧
      (∀ answered ∈ trace, ∀ page,
        Client.Reads (Listing.shape .string) answered.call answered.answer (.ok (.part page)) →
          page.totalCount.toNat ≤ 3) ∧
      trace.length = 3 ∧ trace.length ≤ max 1 3 ∧ (trace.map fun answered => answered.call).Nodup := by
  obtain ⟨trace, ends, brings⟩ := exists_letterListing
    [pageOfLetters ["a"] [("totalCount", Json.ofNat 2)], pageOfLetters ["b"] [("totalCount", Json.ofNat 3)],
      pageOfLetters ["c"] [("totalCount", Json.ofNat 3)]]
    (by decide +kernel : _ = [.part ⟨["a"], 2⟩, .part ⟨["b"], 3⟩, .part ⟨["c"], 3⟩].map some)
    (.more rfl (.more rfl (.last rfl)))
  have within := brings.forall_page (P := fun page => page.totalCount.toNat ≤ 3) (by simp)
  obtain ⟨few, _, _, different⟩ :=
    (paged_bounded letterClient (.listClusters "p") .string).2 _ _ ends 3 (by decide) within
  exact ⟨trace, ends, within, brings.length_eq, few, different⟩

/-! ## What comes out -/

/-- A listing comes to items only if all replies to its requests are listings; if they are and there is a number for
each page, it does. It drops nothing that they bring and keeps it in order, unless an array comes after a page: then
nothing but the array comes out. -/
theorem paged_lossless (client : Client) (c : ControlCall) (item : Shape α)
    {result : Except ε (Except GatewayError (List α))}
    (ends : (paged client c item : Program Web ε _).Ends trace result) :
    (trace.length < 2 ^ 31 → (∃ request, pageRequest client c 1 = .ok request) →
      ∀ answers, Brings item trace answers → ∃ items, result = .ok (.ok items)) ∧
    ∀ items, result = .ok (.ok items) → ∃ answers, Brings item trace answers ∧
      (items = answers.flatMap Listing.items ↔ ∀ all, .whole all ∉ answers.tail) ∧
      ∀ all, .whole all ∈ answers.tail → items = all := by
  obtain ⟨outcome, rfl, collects⟩ := ends_pagesFrom_iff.mp ends
  constructor
  · intro _ addressed answers brings
    obtain ⟨items, rfl⟩ := collects.exists_items addressed brings
    exact ⟨items, rfl⟩
  · intro items listed
    obtain ⟨answers, brings, makes⟩ := collects.exists_answers (Except.ok.inj listed)
    exact ⟨answers, brings, makes.eq_flatMap_iff, fun all late => makes.eq_of_mem (List.mem_of_mem_tail late)⟩

/-- Pages that say nothing true, or nothing at all, of how many letters there are: all of them come out. -/
theorem miscounted_lossless : ∃ trace,
    (paged letterClient (.listClusters "p") .string : Program Web Empty _).Ends trace (.ok (.ok ["a", "b", "c"])) ∧
      ∃ answers, Brings .string trace answers ∧ answers.length = 2 ∧
        ["a", "b", "c"] = answers.flatMap Listing.items := by
  obtain ⟨trace, ends, brings⟩ := exists_letterListing
    [pageOfLetters ["a"] [("totalCount", Json.ofNat 9)], pageOfLetters ["b", "c"] []]
    (by decide +kernel : _ = [.part ⟨["a"], 9⟩, .part ⟨["b", "c"], 0⟩].map some) (.more rfl (.last rfl))
  obtain ⟨succeeds, all⟩ := paged_lossless letterClient (.listClusters "p") .string ends
  have numbered : trace.length < 2 ^ 31 := by
    rw [brings.length_eq]
    decide
  obtain ⟨items, listed⟩ := succeeds numbered letters_addressed _ brings
  obtain ⟨answers, brings', lossless, _⟩ := all items listed
  obtain rfl := brings.unique brings'
  cases listed
  exact ⟨trace, ends, _, brings, rfl, lossless.mpr (by simp)⟩

/-- A page with a letter, then an array with another: only that of the array comes out. -/
theorem late_array_drops_page : ∃ trace answers,
    (paged letterClient (.listClusters "p") .string : Program Web Empty _).Ends trace (.ok (.ok ["b"])) ∧
      Brings .string trace answers ∧ answers.flatMap Listing.items = ["a", "b"] := by
  obtain ⟨trace, ends, brings⟩ := exists_letterListing
    [pageOfLetters ["a"] [("totalCount", Json.ofNat 2)], .array [.string "b"]]
    (by decide +kernel : _ = [.part ⟨["a"], 2⟩, .whole ["b"]].map some) (.more rfl .whole)
  exact ⟨trace, _, ends, brings, rfl⟩

end ControlPlane
end Provisioner
