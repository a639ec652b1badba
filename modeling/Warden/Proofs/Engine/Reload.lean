import Warden.Engine.Lifecycle

namespace Warden.Engine

/-!
# Switches and reloads

A part of the engine has something to end only when it is switched off.  A reload moves the three
switches one after the other, each of them after all values of the new settings are in place.

* `setAppLock_state`, `setTamper_state`, `setKeyword_state` — the engine after a switch is set.
* `switch_setAppLock`, `switch_setTamper`, `switch_setKeyword` — a switch that is set only if it
  stands otherwise.
* `losesAppLock`, `losesTamper`, `losesKeyword` — what settings switch off.
* `reload_state`, `reload_effects` — all that a reload makes of the engine, and all that it asks
  for.
-/

variable {e : Engine}

/-! ### One switch -/

/-- Switching app lock off ends the sessions and forgets the prompt; switching it on brings nothing
back. -/
theorem setAppLock_state (e : Engine) (on : Bool) :
    (e.setAppLock on).state =
      { e with
        appLockEnabled := on
        sessions := if on then e.sessions else e.sessions.clear.1
        pendingLock := if on then e.pendingLock else none } := by
  cases on
  · -- The prompt is asked away only if there is one, but it is forgotten in any case.
    unfold setAppLock
    cases e.pendingLock <;> rfl
  · rfl

/-- Switching app lock off takes the remembered prompt away. -/
theorem setAppLock_effects (e : Engine) (on : Bool) :
    (e.setAppLock on).effects =
      if on then [] else (e.pendingLock.map fun app => .surface (.hide (.appLock app))).toList := by
  cases on with
  | true => rfl
  | false =>
    unfold setAppLock
    cases e.pendingLock <;> rfl

/-- Switching tamper protection off closes the window and forgets the attempts. -/
theorem setTamper_state (e : Engine) (on : Bool) :
    (e.setTamper on).state =
      { e with
        bypass := (e.bypass.setEnabled on).state
        tamper := if on then e.tamper else e.tamper.reset } := by
  cases on <;> rfl

/-- Switching tamper protection off closes the window, and the log hears of it if it was on. -/
theorem setTamper_effects (e : Engine) (on : Bool) :
    (e.setTamper on).effects =
      (e.bypass.setEnabled on).effects ++
        if e.bypass.enabled && !on then [.record ⟨.protectionDisabled, "tamper", none⟩] else [] := by
  cases on with
  | true => simp [setTamper, Outcome.within, Bypass.setEnabled]
  | false => simp [setTamper, Outcome.within, Outcome.also]

/-- Switching keyword protection off ends all countdowns. -/
theorem setKeyword_state (e : Engine) (on : Bool) :
    (e.setKeyword on).state =
      { e with
        keywordEnabled := on
        keywords := if on then e.keywords else e.keywords.cancelAll.state } := by
  cases on <;> rfl

/-- Only switching off asks for something. -/
theorem setKeyword_effects (e : Engine) (on : Bool) :
    (e.setKeyword on).effects = if on then [] else e.keywords.cancelAll.effects := by
  cases on <;> rfl

/-! ### Switches that are set if they stand otherwise -/

/-- If switching on does nothing but set the switch, then a switch matters only where it goes
off. -/
theorem switch_eq {now : Bool} {move : Engine → Bool → Outcome Engine Unit} (set : Bool → Engine)
    (hsame : set now = e) (hon : move e true = .answering (set true) ()) (wanted : Bool) :
    switch now wanted move e =
      if now && !wanted then move e false else .answering (set wanted) () := by
  cases now <;> cases wanted <;> simp [switch, hsame, hon]

/-- App lock is one such switch. -/
theorem switch_setAppLock (e : Engine) (wanted : Bool) :
    switch e.appLockEnabled wanted setAppLock e =
      if e.appLockEnabled && !wanted then e.setAppLock false
      else .answering { e with appLockEnabled := wanted } () :=
  switch_eq (fun on => { e with appLockEnabled := on }) rfl rfl wanted

/-- Tamper protection is another one; its switch stands in the window. -/
theorem switch_setTamper (e : Engine) (wanted : Bool) :
    switch e.bypass.enabled wanted setTamper e =
      if e.bypass.enabled && !wanted then e.setTamper false
      else .answering { e with bypass := { e.bypass with enabled := wanted } } () :=
  switch_eq (fun on => { e with bypass := { e.bypass with enabled := on } }) rfl rfl wanted

/-- Keyword protection is the third. -/
theorem switch_setKeyword (e : Engine) (wanted : Bool) :
    switch e.keywordEnabled wanted setKeyword e =
      if e.keywordEnabled && !wanted then e.setKeyword false
      else .answering { e with keywordEnabled := wanted } () :=
  switch_eq (fun on => { e with keywordEnabled := on }) rfl rfl wanted

/-- What is left of app lock then. -/
theorem switch_setAppLock_state (e : Engine) (wanted : Bool) :
    (switch e.appLockEnabled wanted setAppLock e).state =
      { e with
        appLockEnabled := wanted
        sessions := if e.appLockEnabled && !wanted then e.sessions.clear.1 else e.sessions
        pendingLock := if e.appLockEnabled && !wanted then none else e.pendingLock } := by
  rw [switch_setAppLock, apply_ite Outcome.state, setAppLock_state]
  cases e.appLockEnabled <;> cases wanted <;> rfl

/-- What is left of tamper protection then. -/
theorem switch_setTamper_state (e : Engine) (wanted : Bool) :
    (switch e.bypass.enabled wanted setTamper e).state =
      { e with
        bypass := if e.bypass.enabled && !wanted then (e.bypass.setEnabled false).state
          else { e.bypass with enabled := wanted }
        tamper := if e.bypass.enabled && !wanted then e.tamper.reset else e.tamper } := by
  rw [switch_setTamper, apply_ite Outcome.state, setTamper_state]
  cases e.bypass.enabled <;> cases wanted <;> rfl

/-- What is left of keyword protection then. -/
theorem switch_setKeyword_state (e : Engine) (wanted : Bool) :
    (switch e.keywordEnabled wanted setKeyword e).state =
      { e with
        keywordEnabled := wanted
        keywords := if e.keywordEnabled && !wanted then e.keywords.cancelAll.state
          else e.keywords } := by
  rw [switch_setKeyword, apply_ite Outcome.state, setKeyword_state]
  cases e.keywordEnabled <;> cases wanted <;> rfl

/-! ### Reloads -/

/-- Whether settings switch app lock off. -/
def losesAppLock (e : Engine) (s : Settings) : Bool := e.appLockEnabled && !s.appLockEnabled

/-- Whether settings switch tamper protection off. -/
def losesTamper (e : Engine) (s : Settings) : Bool := e.bypass.enabled && !s.tamperEnabled

/-- Whether settings switch keyword protection off. -/
def losesKeyword (e : Engine) (s : Settings) : Bool := e.keywordEnabled && !s.keywordEnabled

/-- The engine after a reload: it has the new values, and what is switched off has ended. -/
theorem reload_state (e : Engine) (s : Settings) :
    (e.reload s).state =
      let r := e.retune s
      { r with
        appLockEnabled := s.appLockEnabled
        sessions := if e.losesAppLock s then r.sessions.clear.1 else r.sessions
        pendingLock := if e.losesAppLock s then none else r.pendingLock
        bypass := if e.losesTamper s then (r.bypass.setEnabled false).state
          else { r.bypass with enabled := s.tamperEnabled }
        tamper := if e.losesTamper s then r.tamper.reset else r.tamper
        keywordEnabled := s.keywordEnabled
        keywords := if e.losesKeyword s then r.keywords.cancelAll.state else r.keywords } := by
  show (switch _ s.keywordEnabled setKeyword (switch _ s.tamperEnabled setTamper
    (switch _ s.appLockEnabled setAppLock (e.retune s)).state).state).state = _
  rw [switch_setKeyword_state, switch_setTamper_state, switch_setAppLock_state]
  rfl

/-- What a reload asks for: the pending prompt is taken away, the window is closed, and the
countdowns are ended, each if its part is switched off. -/
theorem reload_effects (e : Engine) (s : Settings) :
    (e.reload s).effects =
      (if e.losesAppLock s then ((e.retune s).setAppLock false).effects else []) ++
      ((if e.losesTamper s then ((e.retune s).setTamper false).effects else []) ++
        if e.losesKeyword s then e.keywords.cancelAll.effects else []) := by
  -- The engine before each of the three switches.
  let r := e.retune s
  let e₁ := (switch r.appLockEnabled s.appLockEnabled setAppLock r).state
  let e₂ := (switch e₁.bypass.enabled s.tamperEnabled setTamper e₁).state
  have he₁ : e₁ = _ := switch_setAppLock_state r s.appLockEnabled
  have he₂ : e₂ = _ := switch_setTamper_state e₁ s.tamperEnabled
  -- None of the three switches looks at what the ones before it have moved.
  have hlock : (switch r.appLockEnabled s.appLockEnabled setAppLock r).effects =
      if e.losesAppLock s then (r.setAppLock false).effects else [] := by
    rw [switch_setAppLock, apply_ite Outcome.effects]
    rfl
  have htamper : (switch e₁.bypass.enabled s.tamperEnabled setTamper e₁).effects =
      if e.losesTamper s then (r.setTamper false).effects else [] := by
    have hbypass : e₁.bypass = r.bypass := by rw [he₁]
    rw [switch_setTamper, apply_ite Outcome.effects, setTamper_effects, setTamper_effects, hbypass]
    rfl
  have hkeyword : (switch e₂.keywordEnabled s.keywordEnabled setKeyword e₂).effects =
      if e.losesKeyword s then e.keywords.cancelAll.effects else [] := by
    have hon : e₂.keywordEnabled = r.keywordEnabled := by rw [he₂, he₁]
    have hguard : e₂.keywords = r.keywords := by rw [he₂, he₁]
    rw [switch_setKeyword, apply_ite Outcome.effects, setKeyword_effects, hon, hguard]
    rfl
  show _ ++ (_ ++ _) = _
  rw [hlock, htamper, hkeyword]

end Warden.Engine
