import RtlLiterals.Session

/-!
# RtlLiterals.Proofs.Session.History -- a session is what its history says

A session keeps three fields, and every request may touch them: the settings, the style made from
them, and the revision decorated last. This module says what the fields are after any run of
requests, in terms of the requests alone, and from it what the answer to every request for
decorations is.

## §A How it goes

`latestSettings` and `greatest?` read a history from its end: the settings come from the last
request that brought some, the revision is the greatest one asked for since the last new session.
`Session.Follows` says that a state agrees with a history. A request keeps it (`Follows.answer`), so
a run does (`follows_after`). A stale request raises nothing because it is below the greatest
revision already, and a request that is answered becomes the greatest one.
-/

namespace RtlLiterals

/-! ## §B Requests and runs -/

/-- A request to a session. -/
inductive Request where
  | new (settings : Settings)
  | applySettings (settings : Settings)
  | decorate (snap : Snapshot)
  | find (snap : Snapshot)
  | settings
  | style

/-- The answer to a request. -/
inductive Reply where
  | done
  | decorations (d : Option Decorations)
  | found (ms : List Match)
  | settings (settings : Settings)
  | style (style : Style)

namespace Session

/-- One request: the state after it, and its answer. -/
def answer (s : Session) : Request → Session × Reply
  | .new settings => (.new settings, .done)
  | .applySettings settings => (s.applySettings settings, .done)
  | .decorate snap => ((s.decorate snap).1, .decorations (s.decorate snap).2)
  | .find snap => (s, .found (s.find snap))
  | .settings => (s, .settings s.settings)
  | .style => (s, .style s.style)

/-- The state after a run. -/
def after (s : Session) (history : List Request) : Session :=
  history.foldl (fun s r => (s.answer r).1) s

/-- The answers of a run, in order. -/
def replies (s : Session) : List Request → List Reply
  | [] => []
  | r :: history => (s.answer r).2 :: replies (s.answer r).1 history

theorem after_append (s : Session) (history history' : List Request) :
    s.after (history ++ history') = (s.after history).after history' :=
  List.foldl_append

/-- The answer to a request depends on the state it meets. -/
theorem replies_getElem? (s : Session) (before after : List Request) (r : Request) :
    (s.replies (before ++ r :: after))[before.length]? = some ((s.after before).answer r).2 := by
  induction before generalizing s with
  | nil => rfl
  | cons r' before ih => exact ih (s.answer r').1

end Session

/-! ## §C What a history says -/

/-- The settings that a request brings. -/
def Request.settings? : Request → Option Settings
  | .new chosen => some chosen
  | .applySettings chosen => some chosen
  | _ => none

/-- The revision that a request wants decorated. -/
def Request.revision? : Request → Option Nat
  | .decorate snap => some snap.revision
  | _ => none

/-- The request starts over. -/
def Request.isNew : Request → Bool
  | .new _ => true
  | _ => false

/-- The settings of the last request that brought some, or those the session began with. -/
def latestSettings (initial : Settings) (history : List Request) : Settings :=
  (history.filterMap Request.settings?).getLast?.getD initial

/-- The requests behind the last one that starts over. -/
def sinceNew (history : List Request) : List Request :=
  (history.reverse.takeWhile fun r => !r.isNew).reverse

/-- The greatest revision asked for since the last new session, whatever the answers were. -/
def greatest? (history : List Request) : Option Nat :=
  ((sinceNew history).filterMap Request.revision?).max?

/-- **`IsStale history snap`** -- a newer revision than that of the snapshot was asked for before,
since the last new session. -/
def IsStale (history : List Request) (snap : Snapshot) : Prop :=
  ∃ m, greatest? history = some m ∧ snap.revision < m

instance (history : List Request) (snap : Snapshot) : Decidable (IsStale history snap) :=
  decidable_of_iff ((greatest? history).any (snap.revision < ·) = true) <| by
    cases h : greatest? history <;> simp [IsStale, h]

/-- **`r.IsIdle history`** -- the request starts nothing over, and if it asks for decorations it is
stale. -/
def Request.IsIdle (history : List Request) : Request → Prop
  | .new _ => False
  | .decorate snap => IsStale history snap
  | _ => True

/-- The decorations of a snapshot under some settings. -/
def paint (settings : Settings) (snap : Snapshot) : Decorations where
  revision := snap.revision
  style := .ofSettings settings.decoration
  ranges :=
    if settings.enabled then
      (scanWith (.resolve settings.strategy snap.language) snap.text).map
        (Session.rangeOf snap.text)
    else []

/-! ### One request more -/

theorem latestSettings_append (initial : Settings) (history : List Request) (r : Request) :
    latestSettings initial (history ++ [r]) =
      r.settings?.getD (latestSettings initial history) := by
  unfold latestSettings
  rw [List.filterMap_append]
  cases h : r.settings? with
  | none => simp [h]
  | some settings => simp [h]

theorem sinceNew_append {r : Request} (history : List Request) (hr : r.isNew = false) :
    sinceNew (history ++ [r]) = sinceNew history ++ [r] := by
  simp [sinceNew, hr]

theorem greatest?_append_new (history : List Request) (settings : Settings) :
    greatest? (history ++ [.new settings]) = none := by
  simp [greatest?, sinceNew, Request.isNew]

/-- A request without a revision leaves the greatest one. -/
theorem greatest?_append_none {r : Request} (history : List Request) (hnew : r.isNew = false)
    (hrevision : r.revision? = none) : greatest? (history ++ [r]) = greatest? history := by
  rw [greatest?, sinceNew_append history hnew, List.filterMap_append, greatest?]
  simp [hrevision]

/-- A request below the greatest revision leaves it. -/
theorem greatest?_append_of_isStale {history : List Request} {snap : Snapshot}
    (h : IsStale history snap) :
    greatest? (history ++ [.decorate snap]) = greatest? history := by
  obtain ⟨m, hm, hlt⟩ := h
  rw [hm]
  obtain ⟨hmem, hle⟩ := List.max?_eq_some_iff.1 hm
  rw [greatest?, sinceNew_append history rfl, List.filterMap_append]
  refine List.max?_eq_some_iff.2 ⟨List.mem_append_left _ hmem, ?_⟩
  intro k hk
  rcases List.mem_append.1 hk with hk | hk
  · exact hle k hk
  · obtain rfl : k = snap.revision := by simpa [Request.revision?] using hk
    exact Nat.le_of_lt hlt

/-- A request that is not below the greatest revision becomes the greatest one. -/
theorem greatest?_append_of_not_isStale {history : List Request} {snap : Snapshot}
    (h : ¬ IsStale history snap) :
    greatest? (history ++ [.decorate snap]) = some snap.revision := by
  rw [greatest?, sinceNew_append history rfl, List.filterMap_append]
  refine List.max?_eq_some_iff.2 ⟨List.mem_append_right _ (List.mem_singleton.2 rfl), ?_⟩
  intro k hk
  rcases List.mem_append.1 hk with hk | hk
  · obtain ⟨m, hm⟩ := Option.isSome_iff_exists.1 (List.isSome_max?_of_mem hk)
    have hkm := (List.max?_eq_some_iff.1 hm).2 k hk
    have hms : ¬ snap.revision < m := fun hlt => h ⟨m, hm, hlt⟩
    omega
  · obtain rfl : k = snap.revision := by simpa [Request.revision?] using hk
    exact Nat.le_refl _

/-! ## §D The state follows the history -/

namespace Session

/-- **`s.Follows initial history`** -- the fields of the state are what the history says, when the
session began with the initial settings. -/
structure Follows (initial : Settings) (history : List Request) (s : Session) : Prop where
  settings_eq : s.settings = latestSettings initial history
  style_eq : s.style = .ofSettings s.settings.decoration
  latest_eq : s.latest = greatest? history

theorem follows_new (initial : Settings) : (Session.new initial).Follows initial [] :=
  ⟨rfl, rfl, rfl⟩

theorem isStale_iff {initial : Settings} {history : List Request} {s : Session}
    (h : s.Follows initial history) (snap : Snapshot) :
    s.isStale snap = true ↔ IsStale history snap := by
  rw [isStale, h.latest_eq, IsStale]
  cases greatest? history <;> simp

theorem decorate_of_isStale {s : Session} {snap : Snapshot} (h : s.isStale snap = true) :
    s.decorate snap = (s, none) := if_pos h

theorem decorate_of_not_isStale {s : Session} {snap : Snapshot} (h : ¬ s.isStale snap = true) :
    s.decorate snap = ({ s with latest := some snap.revision }, some (s.decorations snap)) :=
  if_neg h

/-- **One request.** A state that follows a history follows it after the next request too. -/
theorem Follows.answer {initial : Settings} {history : List Request} {s : Session}
    (h : s.Follows initial history) (r : Request) :
    (s.answer r).1.Follows initial (history ++ [r]) := by
  cases r with
  | new settings =>
    refine ⟨?_, rfl, (greatest?_append_new history settings).symm⟩
    rw [latestSettings_append]
    rfl
  | applySettings settings =>
    refine ⟨?_, rfl, ?_⟩
    · rw [latestSettings_append]
      rfl
    · rw [greatest?_append_none history rfl rfl]
      exact h.latest_eq
  | decorate snap =>
    have hsettings : latestSettings initial (history ++ [.decorate snap]) =
        latestSettings initial history := latestSettings_append ..
    by_cases hstale : IsStale history snap
    · rw [Session.answer, decorate_of_isStale ((isStale_iff h snap).2 hstale)]
      refine ⟨h.settings_eq.trans hsettings.symm, h.style_eq, ?_⟩
      rw [greatest?_append_of_isStale hstale]
      exact h.latest_eq
    · rw [Session.answer, decorate_of_not_isStale (mt (isStale_iff h snap).1 hstale)]
      refine ⟨h.settings_eq.trans hsettings.symm, h.style_eq, ?_⟩
      exact (greatest?_append_of_not_isStale hstale).symm
  | find _ | settings | style =>
    refine ⟨?_, h.style_eq, ?_⟩
    · rw [latestSettings_append]
      exact h.settings_eq
    · rw [greatest?_append_none history rfl rfl]
      exact h.latest_eq

/-- **A run.** The state after any history follows it. -/
theorem follows_after (initial : Settings) (history : List Request) :
    ((Session.new initial).after history).Follows initial history := by
  suffices h : ∀ (later earlier : List Request) (s : Session), s.Follows initial earlier →
      (s.after later).Follows initial (earlier ++ later) from
    h history [] _ (follows_new initial)
  intro later
  induction later with
  | nil =>
    intro earlier s hs
    rw [List.append_nil]
    exact hs
  | cons r later ih =>
    intro earlier s hs
    have hrest := ih (earlier ++ [r]) _ (hs.answer r)
    rw [List.append_assoc] at hrest
    exact hrest

/-! ## §E Only the revision decides -/

theorem isStale_congr {s t : Session} (h : s.latest = t.latest) (snap : Snapshot) :
    s.isStale snap = t.isStale snap := by
  rw [isStale, isStale, h]

/-- The revision after a request depends on the one before it, not on the settings. -/
theorem latest_answer_congr {s t : Session} (h : s.latest = t.latest) (r : Request) :
    (s.answer r).1.latest = (t.answer r).1.latest := by
  cases r with
  | decorate snap =>
    have hstale := isStale_congr h snap
    by_cases hs : s.isStale snap = true
    · rw [answer, answer, decorate_of_isStale hs, decorate_of_isStale (hstale ▸ hs)]
      exact h
    · rw [answer, answer, decorate_of_not_isStale hs, decorate_of_not_isStale (hstale ▸ hs)]
  | new => rfl
  | applySettings | find | settings | style => exact h

theorem latest_after_congr {s t : Session} (h : s.latest = t.latest) (history : List Request) :
    (s.after history).latest = (t.after history).latest := by
  induction history generalizing s t with
  | nil => exact h
  | cons r history ih => exact ih (latest_answer_congr h r)

/-- An idle request leaves the revision. -/
theorem latest_answer_of_isIdle {initial : Settings} {history : List Request} {s : Session}
    {r : Request} (h : s.Follows initial history) (hr : r.IsIdle history) :
    (s.answer r).1.latest = s.latest := by
  cases r with
  | new => exact hr.elim
  | decorate snap => rw [answer, decorate_of_isStale ((isStale_iff h snap).2 hr)]
  | applySettings | find | settings | style => rfl

theorem latest_after_of_isIdle (initial : Settings) {earlier : List Request} {r : Request}
    (hr : r.IsIdle earlier) (later : List Request) :
    ((Session.new initial).after (earlier ++ r :: later)).latest =
      ((Session.new initial).after (earlier ++ later)).latest := by
  rw [after_append, after_append]
  exact latest_after_congr (latest_answer_of_isIdle (follows_after initial earlier) hr) later

/-! ## §F The answer to a request for decorations -/

/-- A session that follows a history answers from the history alone. -/
theorem decorate_of_follows {initial : Settings} {history : List Request} {s : Session}
    (h : s.Follows initial history) (snap : Snapshot) :
    (s.decorate snap).2 =
      if IsStale history snap then none
      else some (paint (latestSettings initial history) snap) := by
  by_cases hstale : IsStale history snap
  · rw [decorate_of_isStale ((isStale_iff h snap).2 hstale), if_pos hstale]
  · rw [decorate_of_not_isStale (mt (isStale_iff h snap).1 hstale), if_neg hstale]
    show some (s.decorations snap) = _
    rw [decorations, h.style_eq, find, h.settings_eq]
    rfl

theorem decorate_eq_none_iff {s : Session} {snap : Snapshot} :
    (s.decorate snap).2 = none ↔ s.isStale snap = true := by
  by_cases h : s.isStale snap = true
  · simp [decorate_of_isStale h, h]
  · simp [decorate_of_not_isStale h, h]

/-- **Every request for decorations of a run.** It is answered with nothing exactly if a newer
revision was asked for since the last new session, and else with what a new session with the latest
settings answers. To leave out an idle request before it changes nothing about which of the two
it is. -/
theorem replies_decorate (initial : Settings) (before after : List Request) (snap : Snapshot) :
    ((Session.new initial).replies (before ++ .decorate snap :: after))[before.length]? =
        some (.decorations
          (if IsStale before snap then none
          else some (paint (latestSettings initial before) snap))) ∧
      ((Session.new (latestSettings initial before)).decorate snap).2 =
        some (paint (latestSettings initial before) snap) ∧
      ∀ earlier r later, before = earlier ++ r :: later → r.IsIdle earlier →
        (((Session.new initial).replies (before ++ .decorate snap :: after))[before.length]? =
            some (.decorations none) ↔
          ((Session.new initial).replies
            (earlier ++ later ++ .decorate snap :: after))[(earlier ++ later).length]? =
            some (.decorations none)) := by
  refine ⟨?_, ?_, ?_⟩
  · rw [replies_getElem?, answer, decorate_of_follows (follows_after initial before)]
  · have hfresh : ¬ IsStale [] snap := by
      rintro ⟨m, hm, _⟩
      cases hm
    rw [decorate_of_follows (follows_new _), if_neg hfresh]
    rfl
  · rintro earlier r later rfl hidle
    have hlatest := isStale_congr (latest_after_of_isIdle initial hidle later) snap
    rw [replies_getElem?, replies_getElem?, answer, answer, Option.some.injEq, Option.some.injEq,
      Reply.decorations.injEq, Reply.decorations.injEq, decorate_eq_none_iff, decorate_eq_none_iff,
      hlatest]

/-- A plain document at a revision. -/
def plainAt (revision : Nat) : Snapshot := ⟨revision, .plainText, Text.ofString "'\u0628'"⟩

/-- A revision, an older one that comes late, and new settings that turn decorations off. -/
def lateEdit : List Request :=
  [.decorate (plainAt 5), .decorate (plainAt 3),
    .applySettings { Settings.default with enabled := false }]

/-- The late revision is idle: the same revision is painted again, by the new settings, as it would
be without it. -/
theorem replies_decorate_lateEdit :
    (Request.decorate (plainAt 3)).IsIdle [.decorate (plainAt 5)] ∧
      ((Session.new .default).replies (lateEdit ++ [.decorate (plainAt 5)]))[3]? =
        some (.decorations (some ⟨5, .ofSettings .default, []⟩)) ∧
      (((Session.new .default).replies (lateEdit ++ [.decorate (plainAt 5)]))[3]? =
          some (.decorations none) ↔
        ((Session.new .default).replies
          ([.decorate (plainAt 5), .applySettings { Settings.default with enabled := false }] ++
            [.decorate (plainAt 5)]))[2]? = some (.decorations none)) := by
  have hlate : IsStale [.decorate (plainAt 5)] (plainAt 3) := by decide
  have hfresh : ¬ IsStale lateEdit (plainAt 5) := by decide
  obtain ⟨hreply, _, hidle⟩ := replies_decorate .default lateEdit [] (plainAt 5)
  refine ⟨hlate, ?_, hidle [.decorate (plainAt 5)] (.decorate (plainAt 3)) _ rfl hlate⟩
  rw [if_neg hfresh] at hreply
  exact hreply

end Session

end RtlLiterals
