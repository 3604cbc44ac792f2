import RecordFilter.Proofs.Quantity.Cascade
import RecordFilter.Proofs.Quantity.ClockText
import RecordFilter.Proofs.Quantity.SizeText
import RecordFilter.Proofs.Value.Ordering

/-!
Values that are sizes or durations, in whatever form they are written.

A text may be both, as a number of minutes is. A duration is no size, since its text has a colon, and
so the second of two values decides what the first counts as.
-/

namespace RecordFilter

/-- A compact form is no clock form. -/
theorem Duration.readCluster_toOption_of_readCompact {t : Text} {d : Duration}
    (hread : readCompact t = .ok d) : (readCluster t).toOption = none := by
  cases hcluster : readCluster t with
  | ok e =>
    have hcolon := (Text.isInfix_trim t).subset (characters_of_readCluster hcluster).1
    exact absurd hcolon (colon_not_mem_of_readCompact hread)
  | error e => rfl

namespace Value

variable {x : Value} {n : Int} {d : Duration}

/-- The value is a number of bytes, or a text that is read as one. -/
inductive HasSize : Value → Int → Prop
  | integer (i : Int) : HasSize (integer i) i
  | size (n : Int) : HasSize (size n) n
  | text {u : Text} {n : Int} (hread : Quantity.readSize u = .ok n) : HasSize (text u) n

/-- The value is a duration, or a text that is read as one in either form. -/
inductive HasTime : Value → Duration → Prop
  | duration (d : Duration) : HasTime (duration d) d
  | cluster {u : Text} {d : Duration} (hread : Duration.readCluster u = .ok d) : HasTime (text u) d
  | compact {u : Text} {d : Duration} (hread : Duration.readCompact u = .ok d) : HasTime (text u) d

theorem HasSize.byteCount?_eq (hx : x.HasSize n) : x.byteCount? = some n := by
  cases hx with
  | integer i => rfl
  | size n => rfl
  | text hread => rw [byteCount?_text, hread]; rfl

theorem HasTime.duration?_eq (hx : x.HasTime d) : x.duration? = .ok (some d) := by
  cases hx with
  | duration d => rfl
  | cluster hread => rw [duration?_text, hread]; rfl
  | compact hread =>
    rw [duration?_text, Duration.readCluster_toOption_of_readCompact hread, hread]
    rfl

/-- A duration is no size, since its text has a colon. -/
theorem byteCount?_duration (d : Duration) : (duration d).byteCount? = none := by
  have htext : (duration d).byteCount? = (Quantity.readSize d.text).toOption := rfl
  rw [htext]
  cases hread : Quantity.readSize d.text with
  | ok n => exact absurd (Duration.colon_mem_text d) (Quantity.colon_not_mem_of_readSize hread)
  | error e => rfl

/-- A size and a value that has one are compared by how much they are. -/
theorem HasSize.compare_eq {m : Int} (hx : x.HasSize m) (n : Int) :
    x.compare (.size n) = .ok (.sizes m n) :=
  compare_of_byteCount? hx.byteCount?_eq rfl

/-- A duration and a value that has one are compared by how long they are. -/
theorem HasTime.compare_eq {c : Duration} (hx : x.HasTime c) (d : Duration) :
    x.compare (.duration d) = .ok (.durations c d) :=
  compare_of_duration? (Or.inr (byteCount?_duration d)) hx.duration?_eq rfl

end Value

namespace Scalar

variable {u : Text} {d : Duration} {n : Int}

theorem readSize_of_read (hread : read u = .memory n) : Quantity.readSize u = .ok n := by
  have hkind : (read u).kind = .memory := by rw [hread]; rfl
  have haccepted := readAs_kind_of_read (t := u) (by rw [hkind]; decide)
  rw [hkind, hread] at haccepted
  obtain ⟨bytes, hbytes, hsame⟩ := map_eq_ok_iff.mp haccepted
  rw [hbytes, Scalar.memory.inj hsame]

/-- A text that is read as a duration is one as a value too. -/
theorem hasTime_of_read (hread : read u = .clusterDuration d ∨ read u = .duration d) :
    (Value.text u).HasTime d := by
  have hkind : (read u).kind ∈ order := by
    rcases hread with h | h <;> rw [h, kind] <;> decide
  have haccepted := readAs_kind_of_read hkind
  rcases hread with h | h
  · rw [h, kind] at haccepted
    obtain ⟨e, he, hsame⟩ := map_eq_ok_iff.mp haccepted
    exact .cluster (Scalar.clusterDuration.inj hsame ▸ he)
  · rw [h, kind] at haccepted
    obtain ⟨e, he, hsame⟩ := map_eq_ok_iff.mp haccepted
    exact .compact (Scalar.duration.inj hsame ▸ he)

end Scalar

end RecordFilter
