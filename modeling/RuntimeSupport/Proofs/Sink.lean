import Mathlib.Tactic.Lemma
import RuntimeSupport.Sink

/-!
# Standard output between prints

Printing flushes, so between prints either nothing waits or the device takes nothing
(`Sink.Settled`); and then a flush has nothing to do.  No write changes the device, and a write
fails only for the reason that a broken device has (`Outcome.Of`).
-/

namespace RuntimeSupport.Sink

variable {s : Sink} {device : Device}

/-! ## Failures -/

/-- A write to a device leaves it as it is, and fails only for its reason. -/
structure Outcome.Of (device : Device) (o : Outcome) : Prop where
  device_eq : o.1.device = device
  reason_eq : ∀ reason, o.2 = some reason → device = .broken reason

lemma of_succeeded (h : s.device = device) : Outcome.Of device (s, none) := ⟨h, nofun⟩

lemma Outcome.Of.next {o : Outcome} {act : Sink → Outcome} (ho : o.Of device)
    (hact : ∀ s : Sink, s.device = device → (act s).Of device) : (o.next act).Of device := by
  obtain ⟨s, failure⟩ := o
  cases failure with
  | none => exact hact s ho.device_eq
  | some reason => exact ho

lemma of_deliver (h : s.device = device) (bs : Bytes) : (s.deliver bs).Of device := by
  subst h
  unfold deliver
  split
  · exact of_succeeded rfl
  · next reason hdevice =>
    refine ⟨rfl, fun reason' hreason => ?_⟩
    obtain ⟨-, hsame⟩ := Option.ite_none_left_eq_some.1 hreason
    cases hsame
    exact hdevice

lemma of_flush (h : s.device = device) : s.flush.Of device :=
  (of_deliver h _).next fun _ hs => of_succeeded hs

lemma of_buffer (h : s.device = device) (bs : Bytes) : (s.buffer bs).Of device := by
  unfold buffer
  simp only
  split
  · exact of_succeeded h
  · refine Outcome.Of.next ?_ fun s' hs' => ?_
    · split
      · exact of_flush h
      · exact of_succeeded h
    · split
      · exact of_deliver hs' bs
      · exact of_succeeded hs'

lemma of_writeAll (h : s.device = device) (bs : Bytes) : (s.writeAll bs).Of device := by
  unfold writeAll
  split
  · refine Outcome.Of.next ?_ fun _ hs => of_buffer hs bs
    split
    · exact of_flush h
    · exact of_succeeded h
  · split
    · exact (of_deliver h _).next fun _ hs => of_buffer hs _
    · exact ((of_buffer h _).next fun _ hs => of_flush hs).next fun _ hs => of_buffer hs _

lemma of_print (s : Sink) (bs : Bytes) : (s.print bs).Of s.device :=
  (of_writeAll rfl bs).next fun _ hs => of_flush hs

/-! ## Between prints -/

/-- Nothing waits that the device would take. -/
def Settled (s : Sink) : Prop := s.device ≠ .working ∨ s.pending = []

lemma Settled.flush (h : s.Settled) : s.flush.1 = s := by
  obtain ⟨device, pending, delivered⟩ := s
  cases device with
  | working =>
    obtain hbroken | rfl : _ ∨ pending = [] := h
    · exact absurd rfl hbroken
    · simp [Sink.flush, deliver, Outcome.next]
  | broken reason =>
    cases pending with
    | nil => rfl
    | cons b bs => rfl

lemma settled_start (device : Device) : (start device).Settled := .inr rfl

lemma settled_of_working {printed : Bytes} (h : s = ⟨.working, [], printed⟩) : s.Settled := by
  rw [h]
  exact .inr rfl

lemma Settled.print (h : s.Settled) (bs : Bytes) : (s.print bs).1.Settled := by
  by_cases hdevice : s.device = .working
  · obtain ⟨device, pending, delivered⟩ := s
    obtain rfl : device = .working := hdevice
    obtain hbroken | rfl : _ ∨ pending = [] := h
    · exact absurd rfl hbroken
    · rw [print_working]
      exact .inr rfl
  · refine .inl ?_
    rw [(of_print s bs).device_eq]
    exact hdevice

end RuntimeSupport.Sink
