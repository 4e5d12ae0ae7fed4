import CloudDirector.Payload.Scalar
import CloudDirector.Proofs.Calendar.Zulu

/-!
# Dates, local times and times in UTC

A local date and time is one of UTC, so a final `Z` should change nothing.  That is so for all local
layouts but one, which has no counterpart with a distance from UTC.  A text is read as a date exactly
if it is read as a date and time, and then it is the date on the clock of the text.
-/

namespace CloudDirector.Payload

open Calendar Text

variable {text : String} {layout : List Part} {t : DateTime} {d : Date}

/-- The text, without the blanks around it, is read by the layout as the date and time. -/
def FollowsLayout (layout : List Part) (text : String) (t : DateTime) : Prop :=
  (readLayout layout (trim text.toList)).bind Fields.dateTime? = some t

lemma decodeDateTime_eq_ok_iff : decodeDateTime text = .ok t ↔
    readDateTime (trim text.toList) = some t := by
  rw [decodeDateTime, DateTime.ofString?]
  cases readDateTime (trim text.toList) with
  | none => simp [Result.failValue, Result.fail]
  | some t' => simp

lemma decodeDateTime_of_none (h : readDateTime (trim text.toList) = none) :
    decodeDateTime text = .failValue (.badDateTime (trimmed text)) := by
  rw [decodeDateTime, DateTime.ofString?, h]

/-- A local layout reads no blank text. -/
lemma ne_nil_of_readLayout {fields : Fields} {cs : List Char} (hlayout : layout ∈ localLayouts)
    (h : readLayout layout cs = some fields) : cs ≠ [] := by
  rintro rfl
  have hnone : ∀ layout ∈ localLayouts, canStart layout none = false := by decide
  have hstart := canStart_of_readParts (readLayout_eq_some_iff.1 h)
  rw [List.head?_nil, hnone layout hlayout] at hstart
  cases hstart

/-- A text that a local layout reads is read as a time in UTC, and with a final `Z` it is read as the
same, blanks around either included.  Only where date and time are separated by blanks and the seconds
are missing, the text with `Z` is refused. -/
theorem decodeDateTime_append_zulu (hlayout : layout ∈ localLayouts)
    (h : FollowsLayout layout text t) :
    decodeDateTime text = .ok t ∧ t.offset = 0 ∧
      decodeDateTime (text ++ "Z") =
        if layout = spacedMinutes then .failValue (.badDateTime (trimmed (text ++ "Z")))
        else .ok t := by
  obtain ⟨fields, hread, htime⟩ := Option.bind_eq_some_iff.1 h
  have hlocal : isLocal layout = true := isLocal_of_mem layout (List.mem_append_right _ hlayout)
  refine ⟨?_, ?_, ?_⟩
  · rw [decodeDateTime_eq_ok_iff, readDateTime_of_local hlayout hread, htime]
  · rw [offset_of_dateTime? htime]
    exact offset_eq_of_readParts (offset_notMem_of_isLocal hlocal) (readLayout_eq_some_iff.1 hread)
  · obtain ⟨blanks, hblanks, htrim⟩ := exists_blanks_trim_concat (m := 'Z') rfl
      (ne_nil_of_readLayout hlayout hread)
    have hzulu : readDateTime (trim (text ++ "Z").toList) =
        if layout = spacedMinutes then none else some t := by
      rw [String.toList_append, show "Z".toList = ['Z'] from rfl, htrim,
        readDateTime_zulu hlayout hblanks hread, htime]
    by_cases hspaced : layout = spacedMinutes
    · rw [if_pos hspaced] at hzulu ⊢
      exact decodeDateTime_of_none hzulu
    · rw [if_neg hspaced] at hzulu ⊢
      exact decodeDateTime_eq_ok_iff.2 hzulu

theorem decodeDateTime_tenTwenty :
    ∃ t : DateTime, t.render = "2024-03-05T10:20:00Z" ∧
      FollowsLayout (dashedDate ++ [.mark 'T'] ++ colonMinutes) "  2024-3-5T10: 20 " t ∧
      decodeDateTime "  2024-3-5T10: 20 Z" = .ok t := by
  obtain ⟨t, hrender, hfollows⟩ : ∃ t : DateTime, t.render = "2024-03-05T10:20:00Z" ∧
      FollowsLayout (dashedDate ++ [.mark 'T'] ++ colonMinutes) "  2024-3-5T10: 20 " t := by
    refine ⟨⟨⟨2024, 3, 5, by decide, by decide⟩, ⟨37200, 0, by decide, by decide⟩, 0, by decide,
      by decide⟩, by decide +kernel, ?_⟩
    rw [FollowsLayout]
    decide +kernel
  exact ⟨t, hrender, hfollows, (decodeDateTime_append_zulu (by decide) hfollows).2.2⟩

/-- Without the seconds, and with a blank between date and time, the text is read and the text with
`Z` is not. -/
theorem not_decodeDateTime_tenTwenty_spaced :
    spacedMinutes ∈ localLayouts ∧ ∃ t : DateTime, t.render = "2024-03-05T10:20:00Z" ∧
      FollowsLayout spacedMinutes "2024-03-05 10:20" t ∧
      decodeDateTime "2024-03-05 10:20" = .ok t ∧ decodeDateTime "2024-03-05 10:20Z" ≠ .ok t := by
  refine ⟨by decide, ⟨⟨2024, 3, 5, by decide, by decide⟩, ⟨37200, 0, by decide, by decide⟩, 0,
    by decide, by decide⟩, by decide +kernel, ?_, by decide +kernel, by decide +kernel⟩
  rw [FollowsLayout]
  decide +kernel

/-! ## Dates -/

/-- Every text is read as a date exactly if it is read as a date and time, and then as the date on
the clock of the text; otherwise both readings fail for the value.  A text that spells a date alone
is read by no layout with a time, so it is its midnight in UTC. -/
theorem decodeDate_iff_decodeDateTime (text : String) :
    (∀ d, decodeDate text = .ok d ↔ ∃ t, decodeDateTime text = .ok t ∧ t.date = d) ∧
    (∀ r, decodeDate text = .error r → r.failure = .value (.badDate (trimmed text)) ∧
      ∃ r', decodeDateTime text = .error r' ∧ r'.failure = .value (.badDateTime (trimmed text))) ∧
    ∀ d, readDateOnly (trim text.toList) = some d →
      HasNoTime (trim text.toList) ∧ decodeDateTime text = .ok (atMidnight d) := by
  refine ⟨fun d => ?_, fun r hr => ?_, fun d hd => ⟨hasNoTime_of_readDateOnly hd, ?_⟩⟩
  · rw [decodeDate, decodeDateTime, Date.ofString?_eq_map]
    cases DateTime.ofString? text with
    | none => simp [Result.failValue, Result.fail]
    | some t => simp
  · rw [decodeDate, Date.ofString?_eq_map] at hr
    rw [decodeDateTime]
    cases hread : DateTime.ofString? text with
    | none =>
      rw [hread] at hr
      cases hr
      exact ⟨rfl, _, rfl, rfl⟩
    | some t =>
      rw [hread] at hr
      cases hr
  · rw [decodeDateTime_eq_ok_iff, readDateTime_of_readDateOnly hd]

/-- A date without dashes is its midnight, an evening on a clock behind UTC keeps its date, and a text
that is no date and time is no date. -/
theorem decodeDate_marchFifth :
    ∃ d : Date, d.render = "2024-03-05" ∧ decodeDateTime "20240305" = .ok (atMidnight d) ∧
      decodeDate " 2024-03-05T23:30-05:00 " = .ok d ∧
      ∃ r, decodeDateTime "2024-03-05 10:20Z" = .error r ∧
        r.failure = .value (.badDateTime "2024-03-05 10:20Z") := by
  refine ⟨⟨2024, 3, 5, by decide, by decide⟩, by decide +kernel, ?_, ?_, ?_⟩
  · have hread : readDateOnly (trim "20240305".toList) =
        some ⟨2024, 3, 5, by decide, by decide⟩ := by
      decide +kernel
    exact ((decodeDate_iff_decodeDateTime "20240305").2.2 _ hread).2
  · have hread : ∃ t, decodeDateTime " 2024-03-05T23:30-05:00 " = .ok t ∧
        t.date = ⟨2024, 3, 5, by decide, by decide⟩ := by
      refine ⟨⟨⟨2024, 3, 5, by decide, by decide⟩, ⟨84600, 0, by decide, by decide⟩, -18000,
        by decide, by decide⟩, ?_, rfl⟩
      decide +kernel
    exact ((decodeDate_iff_decodeDateTime " 2024-03-05T23:30-05:00 ").1 _).2 hread
  · have hread : decodeDate "2024-03-05 10:20Z" =
        .error ⟨.value (.badDate "2024-03-05 10:20Z"), []⟩ := by
      decide +kernel
    exact ((decodeDate_iff_decodeDateTime "2024-03-05 10:20Z").2.1 _ hread).2

end CloudDirector.Payload
