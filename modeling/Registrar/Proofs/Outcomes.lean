import Mathlib.Data.List.Forall2
import Registrar.Fault

namespace Registrar

section Except

variable {ε ε' α β : Type}

@[simp] theorem ok_bind (a : α) (f : α → Except ε β) : Except.ok a >>= f = f a := rfl

@[simp] theorem error_bind (e : ε) (f : α → Except ε β) : Except.error e >>= f = .error e := rfl

theorem pure_eq_ok_iff {a b : α} : (pure a : Except ε α) = .ok b ↔ a = b :=
  ⟨Except.ok.inj, congrArg Except.ok⟩

theorem bind_eq_ok_iff {x : Except ε α} {f : α → Except ε β} {b : β} :
    x >>= f = .ok b ↔ ∃ a, x = .ok a ∧ f a = .ok b := by
  cases x <;> simp

theorem bind_eq_error_iff {x : Except ε α} {f : α → Except ε β} {e : ε} :
    x >>= f = .error e ↔ x = .error e ∨ ∃ a, x = .ok a ∧ f a = .error e := by
  cases x <;> simp

@[simp] theorem mapError_ok (a : α) (f : ε → ε') : (Except.ok a).mapError f = .ok a := rfl

@[simp] theorem mapError_error (e : ε) (f : ε → ε') :
    (Except.error e : Except ε α).mapError f = .error (f e) := rfl

theorem mapError_eq_ok_iff {x : Except ε α} {f : ε → ε'} {a : α} :
    x.mapError f = .ok a ↔ x = .ok a := by
  cases x <;> simp

theorem mapError_eq_error_iff {x : Except ε α} {f : ε → ε'} {e : ε'} :
    x.mapError f = .error e ↔ ∃ e', x = .error e' ∧ f e' = e := by
  cases x <;> simp

theorem toOption_eq_some_iff {x : Except ε α} {a : α} : x.toOption = some a ↔ x = .ok a := by
  cases x <;> simp [Except.toOption]

theorem map_eq_ok_iff {x : Except ε α} {f : α → β} {b : β} :
    x.map f = .ok b ↔ ∃ a, x = .ok a ∧ f a = b := by
  cases x <;> simp [Except.map]

theorem map_eq_error_iff {x : Except ε α} {f : α → β} {e : ε} :
    x.map f = .error e ↔ x = .error e := by
  cases x <;> simp [Except.map]

theorem exists_error_iff {x : Except ε α} : (∃ e, x = .error e) ↔ ¬∃ a, x = .ok a := by
  cases x <;> simp

theorem mapM_eq_ok_iff {f : α → Except ε β} {list : List α} {results : List β} :
    list.mapM f = .ok results ↔ List.Forall₂ (fun a b ↦ f a = .ok b) list results := by
  induction list generalizing results with
  | nil => rw [List.mapM_nil, List.forall₂_nil_left_iff, pure_eq_ok_iff, eq_comm]
  | cons a rest ih =>
    simp only [List.mapM_cons, bind_eq_ok_iff, pure_eq_ok_iff, ih, List.forall₂_cons_left_iff]
    constructor
    · rintro ⟨b, hb, more, hmore, rfl⟩
      exact ⟨b, more, hb, hmore, rfl⟩
    · rintro ⟨b, more, hb, hmore, rfl⟩
      exact ⟨b, hb, more, hmore, rfl⟩

end Except

section Partners

variable {α β : Type} {R : α → β → Prop} {list : List α} {partners : List β}

theorem forall₂_mem_left (h : List.Forall₂ R list partners) :
    ∀ a ∈ list, ∃ b ∈ partners, R a b := by
  induction h with
  | nil => exact nofun
  | cons hfirst _ ih =>
    rw [List.forall_mem_cons]
    refine ⟨⟨_, List.mem_cons_self, hfirst⟩, fun a ha ↦ ?_⟩
    obtain ⟨b, hb, hrelated⟩ := ih a ha
    exact ⟨b, List.mem_cons_of_mem _ hb, hrelated⟩

theorem forall₂_mem_right (h : List.Forall₂ R list partners) :
    ∀ b ∈ partners, ∃ a ∈ list, R a b :=
  forall₂_mem_left h.flip

theorem exists_forall₂_iff : (∃ partners, List.Forall₂ R list partners) ↔
    ∀ a ∈ list, ∃ b, R a b := by
  induction list with
  | nil => simp
  | cons a rest ih =>
    simp only [List.forall₂_cons_left_iff, List.forall_mem_cons, ← ih]
    constructor
    · rintro ⟨partners, b, more, hb, hmore, -⟩
      exact ⟨⟨b, hb⟩, more, hmore⟩
    · rintro ⟨⟨b, hb⟩, more, hmore⟩
      exact ⟨b :: more, b, more, hb, hmore, rfl⟩

end Partners

namespace Trace

variable {α β : Type}

@[simp] theorem outcome_pure (a : α) : (pure a : Trace α).outcome = .ok a := rfl

@[simp] theorem outcome_fail (fault : Fault) : (fail fault : Trace α).outcome = .error fault := rfl

@[simp] theorem outcome_record (event : Event) : (record event).outcome = .ok () := rfl

@[simp] theorem outcome_lift (x : Except Fault α) : (liftM x : Trace α).outcome = x := rfl

@[simp] theorem outcome_bind (trace : Trace α) (f : α → Trace β) :
    (trace >>= f).outcome = trace.outcome >>= fun a ↦ (f a).outcome := by
  change (trace.bind f).outcome = _
  unfold Trace.bind
  cases trace.outcome <;> rfl

@[simp] theorem events_pure (a : α) : (pure a : Trace α).events = [] := rfl

@[simp] theorem events_record (event : Event) : (record event).events = [event] := rfl

@[simp] theorem events_lift (x : Except Fault α) : (liftM x : Trace α).events = [] := rfl

@[simp] theorem events_lift_configuration (x : Except ConfigurationError α) :
    (liftM x : Trace α).events = [] := rfl

theorem events_bind_of_ok {trace : Trace α} {f : α → Trace β} {a : α}
    (h : trace.outcome = .ok a) : (trace >>= f).events = trace.events ++ (f a).events := by
  change (trace.bind f).events = _
  simp only [Trace.bind, h]

theorem events_bind_of_error {trace : Trace α} {f : α → Trace β} {fault : Fault}
    (h : trace.outcome = .error fault) : (trace >>= f).events = trace.events := by
  change (trace.bind f).events = _
  simp only [Trace.bind, h]

@[simp] theorem mem_events_bind {trace : Trace α} {f : α → Trace β} {event : Event} :
    event ∈ (trace >>= f).events ↔
      event ∈ trace.events ∨ ∃ a, trace.outcome = .ok a ∧ event ∈ (f a).events := by
  change event ∈ (trace.bind f).events ↔ _
  unfold Trace.bind
  cases trace.outcome <;> simp

instance : LawfulMonad Trace :=
  LawfulMonad.mk' Trace
    (fun trace ↦ by
      change trace.bind (fun a ↦ ⟨[], .ok a⟩) = trace
      rcases trace with ⟨events, outcome⟩
      cases outcome <;> simp [Trace.bind])
    (fun a f ↦ rfl)
    (fun trace f g ↦ by
      change (trace.bind f).bind g = trace.bind fun a ↦ (f a).bind g
      rcases trace with ⟨events, outcome⟩
      cases outcome with
      | error fault => rfl
      | ok a =>
        cases h : (f a).outcome <;> simp [Trace.bind, h])

theorem outcome_mapM (f : α → Trace β) (list : List α) :
    (list.mapM f).outcome = list.mapM fun a ↦ (f a).outcome := by
  induction list with
  | nil => rfl
  | cons a rest ih => simp only [List.mapM_cons, outcome_bind, outcome_pure, ih]; rfl

theorem events_mapM {f : α → Trace β} {list : List α}
    (h : ∀ a ∈ list, ∃ b, (f a).outcome = .ok b) :
    (list.mapM f).events = list.flatMap fun a ↦ (f a).events := by
  induction list with
  | nil => rfl
  | cons a rest ih =>
    rw [List.forall_mem_cons] at h
    obtain ⟨⟨b, hb⟩, hrest⟩ := h
    obtain ⟨more, hmore⟩ := exists_forall₂_iff.2 hrest
    rw [← mapM_eq_ok_iff, ← outcome_mapM] at hmore
    rw [List.mapM_cons, events_bind_of_ok hb, events_bind_of_ok hmore, events_pure,
      List.append_nil, List.flatMap_cons, ih hrest]

end Trace

end Registrar
