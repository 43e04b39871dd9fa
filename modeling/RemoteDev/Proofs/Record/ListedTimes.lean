import RemoteDev.Calendar
import RemoteDev.Proofs.Record.Listing
import RemoteDev.Proofs.Text.Numeral
import RemoteDev.Record.File

/-! Times of listed entries. Whatever count of seconds a moment has, it is written as a day of the
calendar and a time of that day. The time of an entry comes from a count of ticks in two words, so
that it is neither before 1601 nor beyond what calendars show, and every entry of a listing is shown
with a date. -/
namespace RemoteDev
namespace Calendar

theorem day_ofDays (days : Int) : 1 ≤ (Date.ofDays days).day ∧ (Date.ofDays days).day ≤ 31 := by
  have h : (((days + marchOffset) % (periodDays : Int)).toNat) < periodDays := by
    unfold periodDays
    omega
  generalize hd : ((days + marchOffset) % (periodDays : Int)).toNat = day at h
  have hday : day - daysBeforeYear (yearOfPeriod day) ≤ 366 := by
    unfold periodDays at h
    unfold daysBeforeYear yearOfPeriod
    omega
  simp only [Date.ofDays, hd]
  generalize day - daysBeforeYear (yearOfPeriod day) = dayOfYear at hday
  unfold monthOfYear daysBeforeMonth
  omega

/-- A day of the week, a day of a month, a time of day and a year, as they are written. -/
inductive IsMoment : String → Prop
  | intro {weekday month : String} {day hour minute second : Nat} {year : Int}
      (hweekday : weekday ∈ weekdayNames) (hmonth : month ∈ monthNames)
      (hday : 1 ≤ day ∧ day ≤ 31) (hclock : hour < 24 ∧ minute < 60 ∧ second < 60) :
      IsMoment (weekday ++ " " ++ month ++ " " ++ padded ' ' 2 (decimalText day) ++ " " ++
        (digits 2 hour ++ ":" ++ digits 2 minute ++ ":" ++ digits 2 second) ++ " " ++
        yearText year)

theorem getD_mem {names : List String} {i : Nat} (h : i < names.length) :
    names.getD i "" ∈ names := by
  rw [List.getD_eq_getElem names "" h]
  exact List.getElem_mem h

theorem isMoment_momentText (seconds : Int) : IsMoment (momentText seconds) := by
  have hweekday := weekday_lt (seconds / secondsPerDay)
  have hmonth := month_ofDays (seconds / secondsPerDay)
  have hclock : (seconds % secondsPerDay).toNat < 86400 := by
    unfold secondsPerDay
    omega
  refine .intro (getD_mem hweekday) (getD_mem ?_) (day_ofDays _) ⟨?_, ?_, ?_⟩
  · exact Nat.lt_of_le_of_lt (Nat.sub_le_sub_right hmonth.2 1) (by decide)
  all_goals omega

section Characters

variable {c : Char}

theorem notMem_decimalText (h : c.isDigit = false) (n : Nat) : c ∉ (decimalText n).toList := by
  intro hmem
  rw [decimalText, String.toList_ofList] at hmem
  exact Bool.false_ne_true (h.symm.trans (Text.isDigit_of_mem_toDigits hmem))

theorem notMem_padded {filler : Char} {text : String} (hfiller : c ≠ filler)
    (htext : c ∉ text.toList) (width : Nat) : c ∉ (padded filler width text).toList := by
  rw [padded, String.toList_append, String.toList_ofList, List.mem_append]
  rintro (h | h)
  · exact hfiller (List.eq_of_mem_replicate h)
  · exact htext h

theorem notMem_digits (h : c.isDigit = false) (count n : Nat) : c ∉ (digits count n).toList := by
  refine notMem_padded ?_ (notMem_decimalText h n) count
  rintro rfl
  exact absurd h (by decide)

end Characters

/-- A moment is not taken for one that cannot be shown. -/
theorem IsMoment.question_notMem {text : String} (h : IsMoment text) : '?' ∉ text.toList := by
  have hweekdays : ∀ name ∈ weekdayNames, '?' ∉ name.toList := by decide
  have hmonths : ∀ name ∈ monthNames, '?' ∉ name.toList := by decide
  have hdigits (count n : Nat) : '?' ∉ (digits count n).toList :=
    notMem_digits (by decide) count n
  obtain @⟨weekday, month, day, hour, minute, second, year, hweekday, hmonth, -, -⟩ := h
  have hday : '?' ∉ (padded ' ' 2 (decimalText day)).toList :=
    notMem_padded (by decide) (notMem_decimalText (by decide) day) 2
  have hyear : '?' ∉ (yearText year).toList := by
    unfold yearText
    split
    · exact hdigits 4 _
    · rw [String.toList_append, List.mem_append]
      rintro (hsign | hmem)
      · split at hsign <;> exact absurd hsign (by decide)
      · exact hdigits 4 _ hmem
  simp [hweekdays weekday hweekday, hmonths month hmonth, hday, hdigits, hyear]

end Calendar

open FieldReader

theorem Reply.StatesRecords.exists_of_mem {α β : Type} {reply : Reply} {size : Nat}
    {base : FieldReader β} {states : β → α → Prop} {records : List α}
    (h : reply.StatesRecords size base states records) {a : α} (ha : a ∈ records) :
    ∃ group, states group a := by
  obtain ⟨-, groups, rest, -, hstates⟩ := h
  induction hstates with
  | nil => cases ha
  | @cons group a' _ _ hgroup _ ih =>
    rcases List.mem_cons.1 ha with rfl | ha
    · exact ⟨group, hgroup⟩
    · exact ih ha

namespace Entry

theorem States.modified_eq {fields : List Bytes} {e : Entry} (h : States fields e) :
    ∃ low high, e.modified = (timeOfWords low high).toInt := by
  cases h with
  | @intro _ _ _ _ _ _ _ low high _ _ _ =>
    exact ⟨_, _, (toInt_timeOfWords_word32 low high).symm⟩

theorem modified_of_mem_listing {reply : Reply} {entries : List Entry}
    (h : reply.listing = .ok entries) {e : Entry} (he : e ∈ entries) :
    ∃ low high, e.modified = (timeOfWords low high).toInt := by
  have hstates := (Reply.records_eq_ok_iff (by decide) interprets_reader).1 h
  obtain ⟨group, hgroup⟩ := hstates.exists_of_mem he
  exact hgroup.modified_eq

theorem lineIn_of_some {calendar : Int → Option String} {e : Entry} {shown : String}
    (h : calendar e.modified = some shown) :
    e.lineIn calendar = e.attributes ++ " " ++ Calendar.padded ' ' 12 (decimalText e.size) ++
      " " ++ shown ++ " " ++ e.name := by
  rw [lineIn, h, Option.getD_some]

theorem timeText?_of_bounds {time : Int} (h : -(8 * 10 ^ 15) < time ∧ time < 8 * 10 ^ 15)
    (offset : Int) :
    Calendar.timeText? offset time = some (Calendar.momentText (time / 1000 + offset)) := by
  have hshowable : Calendar.isShowable time = true := by
    simp only [Calendar.isShowable, Bool.and_eq_true, decide_eq_true_eq]
    omega
  rw [Calendar.timeText?, if_pos hshowable]

/-- The time of two words is that of the count of ticks that they are the halves of, and no step on
the way to it goes beyond its word; a greater count has no earlier time. Times stay within what any
calendar shows that shows eight thousand million million milliseconds on either side of 1970, so
that the line of every entry that is listed has a date in it and no question mark instead. -/
theorem listed_times_are_shown :
    (∀ low high : UInt32,
      let ticks := 2 ^ 32 * high.toNat + low.toNat
      (ticksOfWords low high).toNat = ticks ∧
        (ticksOfWords low high / 10000).toNat = ticks / 10000 ∧
        (ticksOfWords low high / 10000).toInt64.toInt = (ticks / 10000 : Nat) ∧
        (timeOfWords low high).toInt = (ticks / 10000 : Nat) - 11644473600000 ∧
        -(8 * 10 ^ 15) < (timeOfWords low high).toInt ∧
        (timeOfWords low high).toInt < 8 * 10 ^ 15) ∧
    (∀ low high low' high' : UInt32,
      2 ^ 32 * high.toNat + low.toNat ≤ 2 ^ 32 * high'.toNat + low'.toNat →
        timeOfWords low high ≤ timeOfWords low' high') ∧
    ∀ (reply : Reply) (entries : List Entry), reply.listing = .ok entries → ∀ e ∈ entries,
      (∀ calendar : Int → Option String,
        (∀ time, -(8 * 10 ^ 15) < time → time < 8 * 10 ^ 15 → (calendar time).isSome) →
        ∃ shown, calendar e.modified = some shown ∧
          e.lineIn calendar = e.attributes ++ " " ++
            Calendar.padded ' ' 12 (decimalText e.size) ++ " " ++ shown ++ " " ++ e.name) ∧
      ∀ offset, ∃ shown, Calendar.IsMoment shown ∧ '?' ∉ shown.toList ∧
        e.line offset = e.attributes ++ " " ++
          Calendar.padded ' ' 12 (decimalText e.size) ++ " " ++ shown ++ " " ++ e.name := by
  refine ⟨fun low high => ?_, fun _ _ _ _ h => timeOfWords_mono h, ?_⟩
  · exact ⟨toNat_ticksOfWords low high, toNat_ticksOfWords_div low high,
      toInt_ticksOfWords_div low high, toInt_timeOfWords low high, timeOfWords_bounds low high⟩
  intro reply entries h e he
  obtain ⟨low, high, hmodified⟩ := modified_of_mem_listing h he
  have hbounds := timeOfWords_bounds low high
  rw [← hmodified] at hbounds
  refine ⟨fun calendar hcalendar => ?_, fun offset => ?_⟩
  · obtain ⟨shown, hshown⟩ := Option.isSome_iff_exists.1 (hcalendar _ hbounds.1 hbounds.2)
    exact ⟨shown, hshown, lineIn_of_some hshown⟩
  · have hmoment := Calendar.isMoment_momentText (e.modified / 1000 + offset)
    exact ⟨_, hmoment, hmoment.question_notMem, lineIn_of_some (timeText?_of_bounds hbounds offset)⟩

/-- The greatest count of ticks, in an entry that is called like a time that cannot be shown. -/
theorem listed_times_are_shown_at_last_tick :
    let sent : Sent := ⟨.file, "?", 0, 0, ⟨0xFFFFFFFF, true⟩, ⟨0xFFFFFFFF, true⟩⟩
    let reply := Reply.ofFields sent.fields
    let e : Entry := ⟨.file, "?", ⟨0⟩, 0, 1833029933770955⟩
    sent.timeText = "-1,-1" ∧ reply.listing = .ok [e] ∧
      timeOfWords 0xFFFFFFFF 0 ≤ timeOfWords 0 1 ∧
      ∃ shown, Calendar.IsMoment shown ∧ '?' ∉ shown.toList ∧
        e.line (-3600) = e.attributes ++ " " ++
          Calendar.padded ' ' 12 (decimalText e.size) ++ " " ++ shown ++ " " ++ e.name := by
  intro sent reply e
  have hread : Reply.ReadsFrom Reply.listing ([sent].flatMap Sent.fields) ([sent].map Sent.entry) :=
    Reply.readsFrom_records (by decide) (fun _ => rfl)
      (List.forall_mem_singleton.2 (decodes_reader (by decide)))
  have hentry : sent.entry = e := by decide
  have hlisting : reply.listing = .ok [e] := by
    rw [← hentry]
    exact hread.body reply.body (Reply.repeated_bytes_ofFields (by decide))
  obtain ⟨-, hmono, hshown⟩ := listed_times_are_shown
  obtain ⟨-, hlines⟩ := hshown reply [e] hlisting e List.mem_cons_self
  exact ⟨by decide, hlisting, hmono _ _ _ _ (by decide), hlines (-3600)⟩

end Entry
end RemoteDev
