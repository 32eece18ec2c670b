import Provisioner.Http.ControlPlane
import Provisioner.Proofs.Http.Encoding
import Provisioner.Proofs.Text.Items

/-!
# Paths behind a base address

Where a path is put behind a base address, the address that is read has the segments of the path one by one, each
percent-encoded, behind a place that depends on the base address alone (`exists_place`). That takes a base address
without a query and a fragment, and segments in which nothing counts as a separator or as a step to another place.
-/
namespace Provisioner.Url
open Text

/-! ## Segments -/

theorem joinSegments_cons (segment : List Char) (segments : List (List Char)) :
    joinSegments (segment :: segments) = '/' :: (segment ++ joinSegments segments) := rfl

theorem joinSegments_append (one other : List (List Char)) :
    joinSegments (one ++ other) = joinSegments one ++ joinSegments other :=
  List.flatMap_append

theorem joinSegments_ne_nil {segments : List (List Char)} (nonempty : segments ≠ []) : joinSegments segments ≠ [] := by
  obtain ⟨segment, rest, rfl⟩ := List.exists_cons_of_ne_nil nonempty
  exact List.cons_ne_nil _ _

/-- What is joined with slashes is split at them again. -/
theorem splitOn_append_joinSegments (front : List Char) {segments : List (List Char)}
    (whole : ∀ segment ∈ segments, '/' ∉ segment) :
    splitOn '/' (front ++ joinSegments segments) = splitOn '/' front ++ segments := by
  induction segments generalizing front with
  | nil => simp [joinSegments]
  | cons segment segments ih =>
    obtain ⟨here, later⟩ := List.forall_mem_cons.mp whole
    rw [joinSegments_cons, splitOn_append, ih segment later, splitOn_of_not_mem here, List.singleton_append]

theorem joinSegments_injective {segments segments' : List (List Char)} (whole : ∀ segment ∈ segments, '/' ∉ segment)
    (whole' : ∀ segment ∈ segments', '/' ∉ segment) (same : joinSegments segments = joinSegments segments') :
    segments = segments' := by
  have split := splitOn_append_joinSegments [] whole
  have split' := splitOn_append_joinSegments [] whole'
  rw [same] at split
  exact List.append_cancel_left (split.symm.trans split')

/-- A segment that leads to no other place. -/
def IsStep (segment : List Char) : Prop :=
  isSingleDot segment = false ∧ isDoubleDot segment = false

instance (segment : List Char) : Decidable (IsStep segment) :=
  inferInstanceAs (Decidable (_ ∧ _))

/-- A segment before others leads to a place, from which they are followed. -/
theorem follow_cons (place : List (List Char)) (segment : List Char) {rest : List (List Char)} (more : rest ≠ []) :
    follow place (segment :: rest) =
      follow
        (if isDoubleDot segment then place.tail
          else if isSingleDot segment then place
          else encoded reservedInPath segment :: place)
        rest := by
  cases rest with
  | nil => exact absurd rfl more
  | cons next rest =>
    rw [follow]
    · split
      · rfl
      · split <;> rfl
    · exact more

/-- Following the first segments of a path leads to one place, whatever segments come behind them. -/
theorem exists_follow_append (place first : List (List Char)) :
    ∃ place', ∀ segments ≠ [], follow place (first ++ segments) = follow place' segments := by
  induction first generalizing place with
  | nil => exact ⟨place, fun _ _ => rfl⟩
  | cons segment first ih =>
    obtain ⟨place', same⟩ := ih _
    refine ⟨place', fun segments more => ?_⟩
    rw [List.cons_append, follow_cons place segment (List.append_ne_nil_of_right_ne_nil _ more)]
    exact same segments more

theorem follow_of_steps {place segments : List (List Char)} (steps : ∀ segment ∈ segments, IsStep segment) :
    follow place segments = (segments.map (encoded reservedInPath)).reverse ++ place := by
  induction segments generalizing place with
  | nil => rfl
  | cons segment segments ih =>
    obtain ⟨⟨single, double⟩, later⟩ := List.forall_mem_cons.mp steps
    cases segments with
    | nil => simp [follow, single, double]
    | cons next segments => simp [follow_cons, single, double, ih later]

theorem mem_joinSegments {segments : List (List Char)} {c : Char} (member : c ∈ joinSegments segments) :
    c = '/' ∨ ∃ segment ∈ segments, c ∈ segment := by
  obtain ⟨segment, known, member⟩ := List.mem_flatMap.mp member
  exact (List.mem_cons.mp member).imp_right fun inside => ⟨segment, known, inside⟩

/-! ## Clean paths -/

/-- Segments that are kept as they are in a path: nothing in them counts as a separator or is dropped, none of them leads
to another place, and the path does not end in a blank. -/
structure IsClean (segments : List (List Char)) : Prop where
  nonempty : segments ≠ []
  kept : ∀ segment ∈ segments, ∀ c ∈ segment, c ∉ ['/', '\\', '?', '#', '\t', '\n', '\r']
  steps : ∀ segment ∈ segments, IsStep segment
  ends : ∀ last ∈ (joinSegments segments).getLast?, isEdge last = false

namespace IsClean
variable {segments : List (List Char)} (clean : IsClean segments)
include clean

theorem whole : ∀ segment ∈ segments, '/' ∉ segment := by
  intro segment member inside
  exact clean.kept segment member _ inside (by decide)

theorem whole_encoded (reserved : List Char) : ∀ segment ∈ segments.map (encoded reserved), '/' ∉ segment := by
  intro _ member
  obtain ⟨segment, known, rfl⟩ := List.mem_map.mp member
  exact slash_not_mem_encoded (clean.whole segment known)

theorem not_mem_joinSegments {c : Char} (separates : c ∈ ['\\', '?', '#', '\t', '\n', '\r']) :
    c ∉ joinSegments segments := by
  intro member
  rcases mem_joinSegments member with rfl | ⟨segment, known, inside⟩
  · revert separates
    decide
  · exact clean.kept segment known c inside (List.mem_cons_of_mem _ separates)

theorem not_mem_path {c : Char} (separates : c ∈ ['\\', '?', '#', '\t', '\n', '\r']) :
    c ∉ ControlPlane.root.toList ++ joinSegments segments := by
  have root : ∀ c ∈ ['\\', '?', '#', '\t', '\n', '\r'], c ∉ ControlPlane.root.toList := by
    decide
  rw [List.mem_append, not_or]
  exact ⟨root c separates, clean.not_mem_joinSegments separates⟩

theorem exists_last : ∃ before last, joinSegments segments = before ++ [last] ∧ isEdge last = false := by
  have some := joinSegments_ne_nil clean.nonempty
  refine ⟨_, _, (List.dropLast_concat_getLast some).symm, clean.ends _ ?_⟩
  rw [List.getLast?_eq_some_getLast some]
  rfl

end IsClean

/-- A path that is read behind a text has the segments of the path, behind a place that depends on the text alone. -/
theorem exists_resolvePath_append {front : List Char} (something : front ≠ []) :
    ∃ place, ∀ segments, IsClean segments →
      resolvePath (front ++ joinSegments segments) =
        joinSegments (place ++ segments.map (encoded reservedInPath)) := by
  let slashed := front.map fun c => if c = '\\' then '/' else c
  let trimmed := if slashed.head? = some '/' then slashed.tail else slashed
  obtain ⟨place, same⟩ := exists_follow_append [] (splitOn '/' trimmed)
  refine ⟨place.reverse, fun segments clean => ?_⟩
  have mapped : (front ++ joinSegments segments).map (fun c => if c = '\\' then '/' else c) =
      slashed ++ joinSegments segments := by
    have same : ∀ c ∈ joinSegments segments, (if c = '\\' then '/' else c) = c := by
      intro c member
      rw [if_neg]
      rintro rfl
      exact clean.not_mem_joinSegments (by decide) member
    rw [List.map_append, List.map_congr_left same, List.map_id']
  have started : (if (slashed ++ joinSegments segments).head? = some '/' then (slashed ++ joinSegments segments).tail
      else slashed ++ joinSegments segments) = trimmed ++ joinSegments segments := by
    have there : slashed ≠ [] := by simpa [slashed] using something
    rw [List.head?_append_of_ne_nil _ there, List.tail_append_of_ne_nil there]
    simp only [trimmed]
    split <;> rfl
  simp only [resolvePath, mapped, started]
  rw [splitOn_append_joinSegments _ clean.whole, same _ clean.nonempty, follow_of_steps clean.steps, List.reverse_append,
    List.reverse_reverse]

/-! ## Texts behind a base address -/

/-- What is dropped at the ends and inside is dropped from the base address. -/
theorem cleaned_append (base : List Char) {tail rest before : List Char} {last : Char} (starts : tail = '/' :: rest)
    (ends : tail = before ++ [last]) (bare : isEdge last = false) (kept : ∀ c ∈ ['\t', '\n', '\r'], c ∉ tail) :
    cleaned (base ++ tail) = (base.dropWhile isEdge).filter (fun c => c ≠ '\t' ∧ c ≠ '\n' ∧ c ≠ '\r') ++ tail := by
  have front : (base ++ tail).dropWhile isEdge = base.dropWhile isEdge ++ tail := by
    rw [List.dropWhile_append]
    split
    · next empty =>
      rw [List.isEmpty_iff.mp empty, starts, List.dropWhile_cons_of_neg (by decide), List.nil_append]
    · rfl
  have back : ((base.dropWhile isEdge ++ tail).reverse.dropWhile isEdge).reverse = base.dropWhile isEdge ++ tail := by
    rw [ends, ← List.append_assoc, List.reverse_append, List.reverse_singleton, List.singleton_append,
      List.dropWhile_cons_of_neg (by simp [bare])]
    simp
  rw [cleaned, front, back, List.filter_append]
  congr 1
  rw [List.filter_eq_self]
  intro c member
  have other (d : Char) (dropped : d ∈ ['\t', '\n', '\r']) : c ≠ d := by
    rintro rfl
    exact kept c dropped member
  simp [other]

/-- The scheme of an address ends before a slash. -/
theorem splitScheme_append (start rest : List Char) :
    splitScheme (start ++ '/' :: rest) =
      (splitScheme start).map fun (scheme, behind) => (scheme, behind ++ '/' :: rest) := by
  have scheme : (start ++ '/' :: rest).takeWhile isSchemeCharacter = start.takeWhile isSchemeCharacter := by
    rw [List.takeWhile_append]
    split
    · next all =>
      rw [List.takeWhile_cons_of_neg (by decide), List.append_nil]
      exact ((List.takeWhile_prefix _).eq_of_length all).symm
    · rfl
  have dropped : (start ++ '/' :: rest).drop (start.takeWhile isSchemeCharacter).length =
      start.drop (start.takeWhile isSchemeCharacter).length ++ '/' :: rest :=
    List.drop_append_of_le_length (List.takeWhile_prefix _).length_le
  simp only [splitScheme, scheme, dropped]
  generalize start.takeWhile isSchemeCharacter = scheme
  generalize start.drop scheme.length = behind
  rcases scheme with _ | ⟨first, scheme⟩
  · rfl
  · rcases behind with _ | ⟨c, behind⟩
    · rfl
    · by_cases colon : c = ':'
      · subst colon
        simp only [List.cons_append]
        split <;> rfl
      · simp [colon, Except.map]

theorem mem_of_splitScheme {start scheme behind : List Char} (read : splitScheme start = .ok (scheme, behind)) {c : Char}
    (member : c ∈ behind) : c ∈ start := by
  unfold splitScheme at read
  dsimp only at read
  split at read
  · next split =>
    split at read
    · cases read
      apply List.mem_of_mem_drop
      rw [split]
      exact List.mem_cons_of_mem _ member
    · cases read
  · cases read

/-- What comes behind the host of an address. -/
def behindHost (rest : List Char) : List Char :=
  (rest.dropWhile isSlash).dropWhile fun c => !isSlash c

/-- Behind the host comes the path below the root, behind a text that depends on the base address alone. -/
theorem exists_behindHost_append (behind : List Char) :
    ∃ front ≠ [], ∀ path, behindHost (behind ++ (ControlPlane.root.toList ++ path)) = front ++ path := by
  by_cases slashes : behind.dropWhile isSlash = []
  · -- without a host, the first segment is taken for one
    refine ⟨"/atlas/v2/groups".toList, by decide, fun path => ?_⟩
    rw [behindHost, List.dropWhile_append, if_pos (List.isEmpty_iff.mpr slashes)]
    rfl
  · refine ⟨(behind.dropWhile isSlash).dropWhile (fun c => !isSlash c) ++ ControlPlane.root.toList, ?_, fun path => ?_⟩
    · exact List.append_ne_nil_of_right_ne_nil _ (by decide)
    · rw [behindHost, List.dropWhile_append, if_neg (mt List.isEmpty_iff.mp slashes), List.dropWhile_append,
        List.append_assoc]
      split
      · next empty =>
        rw [List.isEmpty_iff.mp empty]
        rfl
      · rfl

theorem splitAt_of_not_mem {c : Char} {cs : List Char} (free : c ∉ cs) : splitAt c cs = (cs, none) := by
  have all : cs.dropWhile (· ≠ c) = [] := by
    rw [List.dropWhile_eq_nil_iff]
    intro d member
    simp only [ne_eq, decide_eq_true_eq]
    rintro rfl
    exact free member
  rw [splitAt, all]

/-- The path of an address has the segments that were put behind the base address, behind a place that depends on the
base address alone. -/
theorem exists_place {base : String} (bare : '?' ∉ base.toList ∧ '#' ∉ base.toList) :
    ∃ place, ∀ (path : String) (segments : List (List Char)) (url : Url), IsClean segments →
      path.toList = ControlPlane.root.toList ++ joinSegments segments → parse (base ++ path) = .ok url →
      url.host.isNone = false → url.path = joinSegments (place ++ segments.map (encoded reservedInPath)) := by
  let start := (base.toList.dropWhile isEdge).filter fun c => c ≠ '\t' ∧ c ≠ '\n' ∧ c ≠ '\r'
  have inBase {c : Char} (member : c ∈ start) : c ∈ base.toList :=
    List.dropWhile_subset _ (List.mem_of_mem_filter member)
  have read {path : String} {segments : List (List Char)} (clean : IsClean segments)
      (spelled : path.toList = ControlPlane.root.toList ++ joinSegments segments) :
      splitScheme (cleaned (base ++ path).toList) =
        (splitScheme start).map fun (scheme, behind) => (scheme, behind ++ path.toList) := by
    obtain ⟨before, last, ends, bare⟩ := clean.exists_last
    rw [String.toList_append, cleaned_append base.toList (spelled.trans rfl)
      (by rw [spelled, ends, ← List.append_assoc]) bare, spelled]
    · exact splitScheme_append start _
    · intro c dropped
      rw [spelled]
      exact clean.not_mem_path (List.mem_cons_of_mem _ (List.mem_cons_of_mem _ (List.mem_cons_of_mem _ dropped)))
  cases split : splitScheme start with
  | error error =>
    refine ⟨[], fun path segments url clean spelled parsed _ => ?_⟩
    rw [parse, read clean spelled, split] at parsed
    cases parsed
  | ok parts =>
    obtain ⟨scheme, behind⟩ := parts
    obtain ⟨front, something, continued⟩ := exists_behindHost_append behind
    obtain ⟨place, resolved⟩ := exists_resolvePath_append something
    refine ⟨place, fun path segments url clean spelled parsed hosted => ?_⟩
    have free {c : Char} (other : c ∉ base.toList) (separates : c ∈ ['\\', '?', '#', '\t', '\n', '\r']) :
        c ∉ behind ++ path.toList := by
      rw [List.mem_append, not_or, spelled]
      exact ⟨fun inside => other (inBase (mem_of_splitScheme split inside)), clean.not_mem_path separates⟩
    rw [parse, read clean spelled, split] at parsed
    simp only [Except.map, bind, Except.bind, splitAt_of_not_mem (free bare.1 (by decide)),
      splitAt_of_not_mem (free bare.2 (by decide))] at parsed
    split at parsed
    · cases parsed
      cases hosted
    · split at parsed
      · cases parsed
      · cases parsed
        rw [spelled]
        exact (congrArg resolvePath (continued _)).trans (resolved segments clean)

end Provisioner.Url
