import RtlLiterals.Proofs.Session.History

/-!
# RtlLiterals.Proofs.Session.Delivery -- snapshots that arrive out of order

A host passes snapshots of a document to a session and shows what the session answers; an answer
without decorations leaves what it shows. Snapshots may be delivered in any order, more than once,
and several may have the same revision. This module shows that the host ends up with the newest of
them, whatever the order was.

## §A How it goes

`Host.Shows` ties a host to the snapshots delivered so far: the revision that the session keeps is
the one on display, what is on display was made from a newest snapshot, and revisions never went
down. One delivery keeps it (`Host.Shows.deliver`), so every run of deliveries does
(`Host.shows_run`). Two orders of the same snapshots have the same newest ones, so they can only end
differently if two different snapshots are newest.
-/

namespace RtlLiterals

/-- **`IsNewest snaps snap`** -- the snapshot is one of those with the greatest revision. -/
def IsNewest (snaps : List Snapshot) (snap : Snapshot) : Prop :=
  snap ∈ snaps ∧ ∀ other ∈ snaps, other.revision ≤ snap.revision

instance (snaps : List Snapshot) (snap : Snapshot) : Decidable (IsNewest snaps snap) :=
  inferInstanceAs (Decidable (_ ∧ _))

theorem isNewest_perm {snaps snaps' : List Snapshot} (h : snaps'.Perm snaps) (snap : Snapshot) :
    IsNewest snaps' snap ↔ IsNewest snaps snap := by
  simp only [IsNewest, h.mem_iff]

/-- A snapshot that is not older than a newest one is a newest one when it is delivered. -/
theorem IsNewest.append_of_le {snaps : List Snapshot} {newest snap : Snapshot}
    (h : IsNewest snaps newest) (hle : newest.revision ≤ snap.revision) :
    IsNewest (snaps ++ [snap]) snap := by
  refine ⟨List.mem_append_right _ (List.mem_singleton.2 rfl), fun other hother => ?_⟩
  rcases List.mem_append.1 hother with hother | hother
  · exact Nat.le_trans (h.2 other hother) hle
  · obtain rfl := List.mem_singleton.1 hother
    exact Nat.le_refl _

/-- A newest snapshot stays one when an older one is delivered. -/
theorem IsNewest.append_of_lt {snaps : List Snapshot} {newest snap : Snapshot}
    (h : IsNewest snaps newest) (hlt : snap.revision < newest.revision) :
    IsNewest (snaps ++ [snap]) newest := by
  refine ⟨List.mem_append_left _ h.1, fun other hother => ?_⟩
  rcases List.mem_append.1 hother with hother | hother
  · exact h.2 other hother
  · obtain rfl := List.mem_singleton.1 hother
    exact Nat.le_of_lt hlt

/-! ## §B A host -/

/-- A session, and what a host has shown of its answers. -/
structure Host where
  session : Session
  /-- All decorations that were shown, the latest first. -/
  shown : List Decorations

namespace Host

/-- A host that has shown nothing yet. -/
def new (settings : Settings) : Host := ⟨.new settings, []⟩

/-- What the host shows now. -/
def current (h : Host) : Option Decorations := h.shown.head?

/-- Delivers a snapshot: decorations replace what is shown, and no answer leaves it. -/
def deliver (h : Host) (snap : Snapshot) : Host :=
  match h.session.decorate snap with
  | (session, some d) => ⟨session, d :: h.shown⟩
  | (session, none) => ⟨session, h.shown⟩

/-- The host after snapshots were delivered one after the other. -/
def run (settings : Settings) (snaps : List Snapshot) : Host := snaps.foldl deliver (new settings)

/-! ## §C One delivery -/

/-- **`h.Shows settings snaps`** -- what a host with fixed settings is after some deliveries. -/
structure Shows (settings : Settings) (snaps : List Snapshot) (h : Host) : Prop where
  settings_eq : h.session.settings = settings
  style_eq : h.session.style = .ofSettings settings.decoration
  latest_eq : h.session.latest = h.current.map Decorations.revision
  current_eq : (snaps = [] ∧ h.current = none) ∨
    ∃ snap, IsNewest snaps snap ∧ h.current = some (paint settings snap)
  ascending : h.shown.Pairwise fun later earlier => earlier.revision ≤ later.revision

theorem shows_new (settings : Settings) : (new settings).Shows settings [] :=
  ⟨rfl, rfl, rfl, .inl ⟨rfl, rfl⟩, .nil⟩

theorem deliver_of_isStale {h : Host} {snap : Snapshot} (hs : h.session.isStale snap = true) :
    h.deliver snap = h := by
  rw [deliver, Session.decorate_of_isStale hs]

/-- A session with fixed settings paints every snapshot that is not stale. -/
theorem Shows.deliver_of_not_isStale {settings : Settings} {snaps : List Snapshot} {h : Host}
    (hshows : h.Shows settings snaps) {snap : Snapshot} (hs : ¬ h.session.isStale snap = true) :
    h.deliver snap =
      ⟨{ h.session with latest := some snap.revision }, paint settings snap :: h.shown⟩ := by
  have hpaint : h.session.decorations snap = paint settings snap := by
    rw [Session.decorations, Session.find, hshows.settings_eq, hshows.style_eq]
    rfl
  rw [deliver, Session.decorate_of_not_isStale hs, hpaint]

/-- **One delivery.** -/
theorem Shows.deliver {settings : Settings} {snaps : List Snapshot} {h : Host}
    (hshows : h.Shows settings snaps) (snap : Snapshot) :
    (h.deliver snap).Shows settings (snaps ++ [snap]) := by
  by_cases hs : h.session.isStale snap = true
  · -- A stale snapshot is older than the one on display.
    rw [deliver_of_isStale hs]
    refine ⟨hshows.settings_eq, hshows.style_eq, hshows.latest_eq, .inr ?_, hshows.ascending⟩
    rw [Session.isStale, hshows.latest_eq] at hs
    rcases hshows.current_eq with ⟨_, hnone⟩ | ⟨newest, hnewest, hcurrent⟩
    · rw [hnone] at hs
      cases hs
    · rw [hcurrent] at hs
      exact ⟨newest, hnewest.append_of_lt (of_decide_eq_true hs), hcurrent⟩
  · rw [hshows.deliver_of_not_isStale hs]
    rw [Session.isStale, hshows.latest_eq] at hs
    rcases hshows.current_eq with ⟨rfl, hnone⟩ | ⟨newest, hnewest, hcurrent⟩
    · have hshown : h.shown = [] := List.head?_eq_none_iff.1 hnone
      refine ⟨hshows.settings_eq, hshows.style_eq, rfl, .inr ⟨snap, ?_, rfl⟩, ?_⟩
      · simp [IsNewest]
      · simp [hshown]
    · rw [hcurrent] at hs
      have hle : newest.revision ≤ snap.revision :=
        Nat.le_of_not_lt fun hlt => hs (decide_eq_true hlt)
      refine ⟨hshows.settings_eq, hshows.style_eq, rfl,
        .inr ⟨snap, hnewest.append_of_le hle, rfl⟩, ?_⟩
      -- What was shown before is not above the last of it, which is not above the new one.
      have hascending := hshows.ascending
      obtain ⟨before, hshown⟩ := List.head?_eq_some_iff.1 hcurrent
      rw [hshown] at hascending ⊢
      refine List.pairwise_cons.2 ⟨fun d hd => ?_, hascending⟩
      rcases List.mem_cons.1 hd with rfl | hd
      · exact hle
      · exact Nat.le_trans ((List.pairwise_cons.1 hascending).1 d hd) hle

/-- **A run of deliveries.** -/
theorem shows_run (settings : Settings) (snaps : List Snapshot) :
    (run settings snaps).Shows settings snaps := by
  suffices h : ∀ (later earlier : List Snapshot) (host : Host), host.Shows settings earlier →
      (later.foldl Host.deliver host).Shows settings (earlier ++ later) from
    h snaps [] _ (shows_new settings)
  intro later
  induction later with
  | nil =>
    intro earlier host hshows
    rw [List.append_nil]
    exact hshows
  | cons snap later ih =>
    intro earlier host hshows
    have hrest := ih (earlier ++ [snap]) _ (hshows.deliver snap)
    rw [List.append_assoc] at hrest
    exact hrest

/-! ## §D Any order -/

/-- **Deliveries in any order.** The revisions shown never go down, the host ends with the
decorations of a newest snapshot, and if there is only one of these, it ends with the same
decorations for every order of delivery. -/
theorem current_run_perm (settings : Settings) (snaps : List Snapshot) :
    (run settings snaps).shown.Pairwise (fun later earlier => earlier.revision ≤ later.revision) ∧
      (snaps ≠ [] → ∃ snap, IsNewest snaps snap ∧
        ((Session.new settings).decorate snap).2 = some (paint settings snap) ∧
        (run settings snaps).current = some (paint settings snap)) ∧
      ∀ snaps', snaps'.Perm snaps →
        (∀ a ∈ snaps, ∀ b ∈ snaps, IsNewest snaps a → IsNewest snaps b → a = b) →
        (run settings snaps').current = (run settings snaps).current := by
  have hshows := shows_run settings snaps
  refine ⟨hshows.ascending, ?_, ?_⟩
  · intro hne
    rcases hshows.current_eq with ⟨hnil, _⟩ | ⟨snap, hnewest, hcurrent⟩
    · exact absurd hnil hne
    · exact ⟨snap, hnewest, rfl, hcurrent⟩
  · intro snaps' hperm hunique
    rcases hshows.current_eq with ⟨rfl, _⟩ | ⟨snap, hnewest, hcurrent⟩
    · rw [hperm.eq_nil]
    · rcases (shows_run settings snaps').current_eq with ⟨rfl, _⟩ | ⟨snap', hnewest', hcurrent'⟩
      · obtain rfl := hperm.nil_eq
        cases hnewest.1
      · rw [isNewest_perm hperm] at hnewest'
        rw [hcurrent, hcurrent', hunique _ hnewest'.1 _ hnewest.1 hnewest' hnewest]

/-- Three revisions, the newest of them delivered twice and an old one in between. -/
def lateDeliveries : List Snapshot := [4, 7, 2, 7].map Session.plainAt

/-- Delivered backwards, they end alike, though the host shows fewer of them. -/
theorem current_run_perm_lateDeliveries :
    (∀ a ∈ lateDeliveries, ∀ b ∈ lateDeliveries,
        IsNewest lateDeliveries a → IsNewest lateDeliveries b → a = b) ∧
      (run .default lateDeliveries).current = some (paint .default (Session.plainAt 7)) ∧
      (run .default lateDeliveries.reverse).current = (run .default lateDeliveries).current ∧
      (run .default lateDeliveries).shown.map Decorations.revision = [7, 7, 4] ∧
      (run .default lateDeliveries.reverse).shown.map Decorations.revision = [7, 7] := by
  have hunique : ∀ a ∈ lateDeliveries, ∀ b ∈ lateDeliveries,
      IsNewest lateDeliveries a → IsNewest lateDeliveries b → a = b := by decide
  obtain ⟨_, _, hperm⟩ := current_run_perm .default lateDeliveries
  refine ⟨hunique, rfl, hperm _ (List.reverse_perm _) hunique, rfl, rfl⟩

end Host

end RtlLiterals
