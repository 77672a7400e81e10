import LoadScript.Proofs.Json.Places
import LoadScript.Proofs.Text.Cutting

/-!
Reading breaks off only where a text goes beyond a limit.
-/

namespace LoadScript.Json

open Double.Spelling (AllDigits)

variable {α β : Type} {dialect : Dialect} {depth : Nat} {start middle last : Place} {text part rest : List Char}
  {excess : Overrun}

theorem Exceeds.of_leads (leads : Leads start text middle part) (exceeds : Exceeds dialect middle part excess) :
    Exceeds dialect start text excess := by
  obtain ⟨depth, rest, inner, beyond⟩ := exceeds
  exact ⟨depth, rest, leads.trans inner, beyond⟩

structure Reads (dialect : Dialect) (start : Place) (text : List Char) (last : Place)
    (outcome : Except Fault (α × List Char)) : Prop where
  leads : ∀ value rest, outcome = .ok (value, rest) → Leads start text last rest
  exceeds : ∀ excess, outcome = .error (.overrun excess) → Exceeds dialect start text excess

namespace Reads

theorem value (value : α) (leads : Leads start text last rest) :
    Reads dialect start text last (.ok (value, rest)) where
  leads := by
    rintro _ _ ⟨⟩
    exact leads
  exceeds := by
    rintro _ ⟨⟩

theorem problem (problem : Problem) (remaining : Nat) :
    Reads dialect start text last (.error (.problem problem remaining) : Except Fault (α × List Char)) where
  leads := by
    rintro _ _ ⟨⟩
  exceeds := by
    rintro _ ⟨⟩

theorem overrun (beyond : StandsBeyond dialect depth text excess) :
    Reads dialect (.outside depth) text last (.error (.overrun excess) : Except Fault (α × List Char)) where
  leads := by
    rintro _ _ ⟨⟩
  exceeds := by
    rintro _ ⟨⟩
    exact ⟨depth, text, .refl _ _, beyond⟩

theorem of_leads {outcome : Except Fault (α × List Char)} (leads : Leads start text middle part)
    (reads : Reads dialect middle part last outcome) : Reads dialect start text last outcome where
  leads value rest read := leads.trans (reads.leads value rest read)
  exceeds excess fault := (reads.exceeds excess fault).of_leads leads

theorem bind {outcome : Except Fault (α × List Char)}
    {next : α × List Char → Except Fault (β × List Char)}
    (first : Reads dialect start text middle outcome)
    (second : ∀ value rest, Reads dialect middle rest last (next (value, rest))) :
    Reads dialect start text last (outcome >>= next) := by
  constructor
  · intro result behind read
    obtain ⟨⟨value, rest⟩, ran, nextRead⟩ := Outcome.bind_eq_ok.mp read
    exact (first.leads value rest ran).trans ((second value rest).leads result behind nextRead)
  · intro excess failed
    rcases Outcome.bind_eq_error.mp failed with firstFailed | ⟨⟨value, rest⟩, ran, nextFailed⟩
    · exact first.exceeds excess firstFailed
    · exact ((second value rest).exceeds excess nextFailed).of_leads (first.leads value rest ran)

end Reads

theorem escape_no_overrun (opening text : List Char) :
    escape dialect opening text ≠ .error (.overrun excess) := by
  rw [escape.eq_def]
  intro failed
  repeat' split at failed
  all_goals cases failed

theorem ok_no_overrun (value : α) : (.ok value : Except Fault α) ≠ .error (.overrun excess) := by
  rintro ⟨⟩

theorem problem_no_overrun (problem : Problem) (remaining : Nat) :
    (.error (.problem problem remaining) : Except Fault α) ≠ .error (.overrun excess) := by
  rintro ⟨⟩

theorem bind_no_overrun {outcome : Except Fault α} {next : α → Except Fault β}
    (first : outcome ≠ .error (.overrun excess))
    (second : ∀ value, next value ≠ .error (.overrun excess)) :
    outcome >>= next ≠ .error (.overrun excess) := by
  intro failed
  rcases Outcome.bind_eq_error.mp failed with firstFailed | ⟨value, -, nextFailed⟩
  · exact first firstFailed
  · exact second value nextFailed

theorem stringBody_no_overrun (opening text : List Char) (skip : Nat) :
    stringBody dialect opening skip text ≠ .error (.overrun excess) := by
  induction text generalizing skip with
  | nil => cases skip <;> exact problem_no_overrun _ _
  | cons character text ih =>
      cases skip with
      | succ skip => exact ih skip
      | zero =>
          rw [stringBody]
          split
          · exact ok_no_overrun _
          · split
            · refine bind_no_overrun (escape_no_overrun opening _) fun decoded => ?_
              exact bind_no_overrun (ih (decoded.2 - 1)) fun _ => ok_no_overrun _
            · split
              · exact problem_no_overrun _ _
              · exact bind_no_overrun (ih 0) fun _ => ok_no_overrun _

theorem stringBody_reads (opening text : List Char) :
    Reads dialect (.quoted depth) text (.outside depth) (stringBody dialect opening 0 text) where
  leads _ _ read := stringBody_leads read
  exceeds _ failed := absurd failed (stringBody_no_overrun opening text 0)

theorem number_reads (text : List Char) :
    Reads dialect (.outside depth) text (.outside depth) (number dialect text) := by
  rw [number_eq, unsignedNumber]
  refine Reads.of_leads (splitSign_leads text) ?_
  split
  · exact .problem _ _
  · next digits behind wholeRead =>
      have whole := wholePart?_split wholeRead
      have digitsLead : Leads (.outside depth) (splitSign text).2 (.outside depth) behind := by
        rw [whole]
        refine leads_unmarked ?_ behind
        exact List.all_eq_true.mpr fun digit found =>
          isUnmarked_of_isDigit (wholePart?_allDigits wholeRead digit found)
      have rest := (digitsLead.trans (fraction_leads behind)).trans (power_leads _)
      simp only []
      split
      · exact .value _ rest
      · split
        · next long =>
            exact .overrun ⟨digits, behind, whole, wholePart?_allDigits wholeRead, long, rfl⟩
        · exact .value _ rest

theorem constants_unmarked : ∀ entry ∈ constants, entry.1.all isUnmarked = true := by
  decide

theorem scalar_reads (text : List Char) :
    Reads dialect (.outside depth) text (.outside depth) (scalar dialect text) := by
  rw [scalar]
  split
  · next result found =>
      obtain ⟨entry, known, matched⟩ := List.exists_of_findSome?_eq_some found
      obtain ⟨behind, dropped, rfl⟩ := Option.map_eq_some_iff.mp matched
      rw [Text.eq_append_of_dropStart? dropped]
      exact .value _ (leads_unmarked (constants_unmarked entry known) behind)
  · exact number_reads text

theorem memberName_reads (text : List Char) :
    Reads dialect (.outside depth) text (.outside depth) (memberName dialect text) := by
  rw [memberName.eq_def]
  split
  · next rest =>
      refine Reads.of_leads (quote_leads rest) ((stringBody_reads _ rest).bind fun name behind => ?_)
      simp only []
      split
      · next after same =>
          have colon : Leads (.outside depth) behind (.outside depth) (':' :: after) :=
            same ▸ skipGaps_leads behind
          exact .value _ ((colon.trans (.step _ ':' after)).trans (skipGaps_leads after))
      · exact .problem _ _
  · exact .problem _ _

mutual

theorem readValue_reads (depth fuel : Nat) (text : List Char) :
    Reads dialect (.outside depth) text (.outside depth) (readValue dialect depth fuel text) := by
  cases fuel with
  | zero => exact .problem _ _
  | succ fuel =>
      rw [readValue.eq_def]
      simp only []
      split
      · next rest =>
          refine Reads.of_leads (quote_leads rest) ((stringBody_reads _ rest).bind fun body behind => ?_)
          exact .value _ (.refl _ _)
      · next rest =>
          split
          · next full => exact .overrun ⟨full, rfl⟩
          · refine Reads.of_leads (bracket_leads rfl rest) ?_
            split
            · next behind same => exact .value _ (same ▸ .step _ '}' behind)
            · exact (readMembers_reads depth fuel [] _).bind fun members behind =>
                .value _ (.refl _ _)
      · next rest =>
          split
          · next full => exact .overrun ⟨full, rfl⟩
          · refine Reads.of_leads (bracket_leads rfl rest) ?_
            split
            · next behind same => exact .value _ (same ▸ .step _ ']' behind)
            · exact (readItems_reads depth fuel _).bind fun items behind =>
                .value _ (.refl _ _)
      · exact scalar_reads _

theorem readMembers_reads (depth fuel : Nat) (before : Entries Json) (text : List Char) :
    Reads dialect (.outside (depth + 1)) text (.outside depth) (readMembers dialect (depth + 1) fuel before text) := by
  cases fuel with
  | zero => exact .problem _ _
  | succ fuel =>
      rw [readMembers]
      refine (memberName_reads text).bind fun name behindName => ?_
      refine (readValue_reads (depth + 1) fuel behindName).bind fun member behind => ?_
      refine Reads.of_leads (skipGaps_leads behind) ?_
      simp only []
      split
      · next rest same => exact .value _ (same ▸ .step _ '}' rest)
      · next rest same =>
          rw [same]
          exact (readMembers_reads depth fuel _ (skipGaps rest)).of_leads (comma_leads rest)
      · exact .problem _ _

theorem readItems_reads (depth fuel : Nat) (text : List Char) :
    Reads dialect (.outside (depth + 1)) text (.outside depth) (readItems dialect (depth + 1) fuel text) := by
  cases fuel with
  | zero => exact .problem _ _
  | succ fuel =>
      rw [readItems]
      refine (readValue_reads (depth + 1) fuel text).bind fun item behind => ?_
      refine Reads.of_leads (skipGaps_leads behind) ?_
      simp only []
      split
      · next rest same => exact .value _ (same ▸ .step _ ']' rest)
      · next rest same =>
          rw [same]
          have others := readItems_reads depth fuel (skipGaps rest)
          refine Reads.of_leads (comma_leads rest) (others.bind fun items behind => ?_)
          exact .value _ (.refl _ _)
      · exact .problem _ _

end

theorem document_exceeds (failed : document dialect text = .error (.overrun excess)) :
    Exceeds dialect (.outside 0) text excess := by
  rw [document.eq_def] at failed
  split at failed
  · cases failed
  · rcases Outcome.bind_eq_error.mp failed with valueFailed | ⟨⟨value, rest⟩, -, ended⟩
    · exact ((readValue_reads 0 _ _).exceeds excess valueFailed).of_leads (skipGaps_leads text)
    · simp only [] at ended
      split at ended <;> cases ended

theorem exceeds_of_parse {text : String} (failed : parse dialect text = .error (.overrun excess)) :
    Exceeds dialect (.outside 0) text.toList excess := by
  obtain ⟨fault, documentFailed, same⟩ := Outcome.mapError_eq_error.mp failed
  cases fault with
  | problem problem remaining => cases same
  | overrun found =>
      cases same
      exact document_exceeds documentFailed

theorem readValue_deep (depth count fuel : Nat) (within : depth ≤ dialect.nestingLimit)
    (beyond : dialect.nestingLimit < depth + count) (enough : 2 * count ≤ fuel) :
    readValue dialect depth fuel (List.replicate count '[') = .error (.overrun .deepList) := by
  induction count generalizing depth fuel with
  | zero => omega
  | succ count ih =>
      obtain ⟨fuel, rfl⟩ : ∃ more, fuel = more + 2 := ⟨fuel - 2, by omega⟩
      rw [List.replicate_succ, readValue.eq_def]
      simp only []
      split
      · rfl
      · next room =>
          have inner := ih (depth + 1) fuel (by omega) (by omega) (by omega)
          cases count with
          | zero => omega
          | succ count =>
              have skipped : skipGaps (List.replicate (count + 1) '[') = List.replicate (count + 1) '[' := rfl
              rw [skipped]
              split
              · next behind same => cases same
              · rw [readItems, inner]
                rfl

theorem parse_of_readValue (starts : Text.StartsWith startsValue text)
    (read : readValue dialect 0 (2 * text.length + 1) text = .error (.overrun excess)) :
    parse dialect (String.ofList text) = .error (.overrun excess) := by
  have skipped : skipGaps text = text :=
    @skipGaps_append [] text (by simp [AllGaps]) (stopsAt_of_startsValue starts)
  obtain ⟨first, others, rfl, isStart⟩ := starts
  have documentRead : document dialect (first :: others) = .error (.overrun excess) := by
    rw [document, skipped, read]
    · rfl
    · intro behind same
      exact ne_of_starts isStart (by decide) (List.cons.inj same).1
  rw [parse, String.toList_ofList, documentRead]
  rfl

theorem parse_deep {count : Nat} (beyond : dialect.nestingLimit < count) :
    parse dialect (String.ofList (List.replicate count '[')) = .error (.overrun .deepList) := by
  obtain ⟨more, rfl⟩ : ∃ more, count = more + 1 := ⟨count - 1, by omega⟩
  refine parse_of_readValue ⟨'[', List.replicate more '[', rfl, by decide⟩ ?_
  rw [List.length_replicate]
  exact readValue_deep 0 (more + 1) (2 * (more + 1) + 1) (Nat.zero_le _) (by omega) (by omega)

theorem parse_long {digits : List Char} (all : AllDigits digits) (lead : digits.head? ≠ some '0')
    (long : dialect.digitLimit < digits.length) :
    parse dialect (String.ofList digits) = .error (.overrun (.longNumber (.read digits.length))) := by
  have nonempty : digits ≠ [] := by
    rintro rfl
    cases long
  have starts : Text.StartsWith startsScalar digits := startsScalar_signed false all nonempty
  have unsigned : number dialect digits = unsignedNumber dialect digits [] digits := by
    simpa [Double.Spelling.signText] using number_signed false all nonempty []
  have whole : wholePart? digits = some (digits, []) := by
    simpa using wholePart?_append all nonempty (.inr lead) Text.stopsAt_nil
  have asNumber : scalar dialect digits = number dialect digits := by
    simpa [Double.Spelling.signText] using scalar_signed false all nonempty []
  refine parse_of_readValue (starts.imp fun _ scalar => by simp [startsValue, scalar]) ?_
  rw [readValue_of_scalar 0 _ starts, asNumber, unsigned, unsignedNumber, whole]
  exact if_pos long

end LoadScript.Json
