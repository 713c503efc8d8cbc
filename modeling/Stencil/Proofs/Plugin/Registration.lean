import Stencil.Proofs.Generation.PluginChain

/-! # Plugins in the order of their registration

Plugins are registered one by one, each under a label. For a label those run that are registered
under it, in that order, up to the first one that fails.
-/

namespace Stencil

namespace Plugin

/-- A text comes through plugins to one that fails. -/
def FailsAfter (path : Path) (done : List Plugin) (p : Plugin) (text : String) (fs : FileSystem)
    (e : GenerationError) (fs' : FileSystem) : Prop :=
  ∃ text' fs₁, Passes path done text fs text' fs₁ ∧ (p.run path text').run fs₁ = (.error e, fs')

variable {exec : Executor} {plugins done : List Plugin} {p : Plugin} {path : Path}
  {text content name program : String} {args : List String} {fs fs' : FileSystem}
  {e : GenerationError}

theorem FailsAfter.run_runAll (h : FailsAfter path done p text fs e fs')
    (hstart : done ++ [p] <+: plugins) :
    (runAll plugins path text).run fs = (.error e, fs') := by
  obtain ⟨later, rfl⟩ := hstart
  obtain ⟨text', fs₁, hdone, hp⟩ := h
  unfold runAll
  induction hdone with
  | nil text fs =>
    rw [List.nil_append, List.singleton_append, List.foldlM_cons]
    exact run_bind_error hp
  | cons hq _ ih =>
    rw [List.cons_append, List.cons_append, List.foldlM_cons]
    exact (run_bind_ok hq).trans (ih hp)

/-- A chain fails with the error of the first plugin that fails. -/
theorem run_runAll_eq_error_iff : (runAll plugins path text).run fs = (.error e, fs') ↔
    ∃ done p, done ++ [p] <+: plugins ∧ FailsAfter path done p text fs e fs' := by
  constructor
  · intro h
    unfold runAll at h
    -- the plugins that have run are found one by one, with the text and the files they leave
    induction plugins generalizing text fs with
    | nil => cases h
    | cons p ps ih =>
      rw [List.foldlM_cons] at h
      rcases hp : (p.run path text).run fs with ⟨e' | text', fs₁⟩
      · rw [run_bind_error hp] at h
        cases h
        exact ⟨[], p, ⟨ps, rfl⟩, text, fs, .nil text fs, hp⟩
      · rw [run_bind_ok hp] at h
        obtain ⟨done, q, hstart, text'', fs₂, hdone, hq⟩ := ih h
        exact ⟨p :: done, q, List.prefix_cons_inj p |>.mpr hstart, text'', fs₂, .cons hp hdone, hq⟩
  · rintro ⟨done, p, hstart, h⟩
    exact h.run_runAll hstart

section Command

variable {result : CommandResult}

/-- What is said of a program that ends with a code that is not zero. -/
def complaint (program : String) (result : CommandResult) : String :=
  program ++ " exited with code " ++ toString result.exitCode ++ ": " ++
    String.ofList (trimBy isBlank result.stderr.toList)

theorem run_command_of_error
    (h : (exec (invocation program args path text fs)).run fs = (.error e, fs')) :
    ((command exec name program args).run path text).run fs =
      (.error (.plugin name path e.message), fs') := by
  unfold invocation at h
  simp only [run_command, answered, invocation, h]

theorem run_command_of_ok
    (h : (exec (invocation program args path text fs)).run fs = (.ok result, fs'))
    (hcode : result.exitCode = 0) :
    ((command exec name program args).run path text).run fs = (.ok result.stdout, fs') := by
  unfold invocation at h
  simp only [run_command, answered, invocation, h]
  rw [CommandResult.succeeded, if_pos (beq_iff_eq.mpr hcode)]

theorem run_command_of_code
    (h : (exec (invocation program args path text fs)).run fs = (.ok result, fs'))
    (hcode : result.exitCode ≠ 0) :
    ((command exec name program args).run path text).run fs =
      (.error (.plugin name path (complaint program result)), fs') := by
  unfold invocation at h
  simp only [run_command, answered, invocation, h]
  rw [CommandResult.succeeded, if_neg (mt beq_iff_eq.mp hcode)]
  rfl

/-- A command plugin gives what its program puts out, if it ends with code zero. -/
theorem run_command_eq_ok_iff :
    ((command exec name program args).run path text).run fs = (.ok content, fs') ↔
      ∃ result, (exec (invocation program args path text fs)).run fs = (.ok result, fs') ∧
        result.exitCode = 0 ∧ result.stdout = content := by
  constructor
  · intro h
    rcases hr : (exec (invocation program args path text fs)).run fs with ⟨e | result, fs₁⟩
    · rw [run_command_of_error hr] at h
      cases h
    · by_cases hcode : result.exitCode = 0
      · rw [run_command_of_ok hr hcode] at h
        cases h
        exact ⟨result, rfl, hcode, rfl⟩
      · rw [run_command_of_code hr hcode] at h
        cases h
  · rintro ⟨result, hr, hcode, rfl⟩
    exact run_command_of_ok hr hcode

/-- A command plugin fails if its program cannot be run or ends with another code. -/
theorem run_command_eq_error_iff :
    ((command exec name program args).run path text).run fs = (.error e, fs') ↔
      (∃ e', (exec (invocation program args path text fs)).run fs = (.error e', fs') ∧
        e = .plugin name path e'.message) ∨
      ∃ result, (exec (invocation program args path text fs)).run fs = (.ok result, fs') ∧
        result.exitCode ≠ 0 ∧ e = .plugin name path (complaint program result) := by
  constructor
  · intro h
    rcases hr : (exec (invocation program args path text fs)).run fs with ⟨e' | result, fs₁⟩
    · rw [run_command_of_error hr] at h
      cases h
      exact .inl ⟨e', rfl, rfl⟩
    · by_cases hcode : result.exitCode = 0
      · rw [run_command_of_ok hr hcode] at h
        cases h
      · rw [run_command_of_code hr hcode] at h
        cases h
        exact .inr ⟨result, rfl, hcode, rfl⟩
  · rintro (⟨e', hr, rfl⟩ | ⟨result, hr, hcode, rfl⟩)
    · exact run_command_of_error hr
    · exact run_command_of_code hr hcode

end Command

end Plugin

namespace PluginRegistry

def registered (calls : List (String × Plugin)) : PluginRegistry :=
  calls.foldl (fun r (label, p) => r.register label p) {}

theorem plugins_foldl_register (calls : List (String × Plugin)) (r : PluginRegistry)
    (label : String) : (calls.foldl (fun r (label, p) => r.register label p) r).plugins label =
      r.plugins label ++ (calls.filter (·.1 == label)).map (·.2) := by
  induction calls generalizing r with
  | nil => exact (List.append_nil _).symm
  | cons call calls ih =>
    obtain ⟨l, p⟩ := call
    rw [List.foldl_cons, ih, plugins_register, List.append_assoc]
    by_cases hl : label = l
    · rw [if_pos hl, List.filter_cons_of_pos (by simp [hl])]
      rfl
    · rw [if_neg hl, List.filter_cons_of_neg (by simpa using Ne.symm hl)]
      rfl

theorem plugins_registered (calls : List (String × Plugin)) (label : String) :
    (registered calls).plugins label = (calls.filter (·.1 == label)).map (·.2) :=
  plugins_foldl_register calls {} label

/-- The plugins of a label are those registered under it, in the order of their registration. A text
passes through them; the first one that fails gives the error. What is registered after that one or
under other labels does not matter: it is not called. A command plugin fails, with an error that
names it and the file, if its program cannot be run or ends with a code that is not zero; else it
gives what the program puts out. -/
theorem run_registered (calls : List (String × Plugin)) (label : String) (path : Path)
    (text : String) (fs : FileSystem) :
    (registered calls).plugins label = (calls.filter (·.1 == label)).map (·.2) ∧
    (∀ content fs', ((registered calls).run label path text).run fs = (.ok content, fs') ↔
      Plugin.Passes path ((registered calls).plugins label) text fs content fs') ∧
    (∀ e fs', ((registered calls).run label path text).run fs = (.error e, fs') ↔
      ∃ done p, done ++ [p] <+: (registered calls).plugins label ∧
        Plugin.FailsAfter path done p text fs e fs') ∧
    ((∀ call ∈ calls, call.1 ≠ label) →
      ((registered calls).run label path text).run fs = (.ok text, fs)) ∧
    (∀ calls', calls'.filter (·.1 == label) = calls.filter (·.1 == label) →
      ((registered calls').run label path text).run fs =
        ((registered calls).run label path text).run fs) ∧
    (∀ done p e fs' calls', Plugin.FailsAfter path done p text fs e fs' →
      done ++ [p] <+: (calls'.filter (·.1 == label)).map (·.2) →
      ((registered calls').run label path text).run fs = (.error e, fs')) ∧
    ∀ exec name program args,
      Plugin.command exec name program args ∈ (registered calls).plugins label → ∀ text' fs₁ fs',
        (∀ content,
          ((Plugin.command exec name program args).run path text').run fs₁ = (.ok content, fs') ↔
            ∃ result,
              (exec (Plugin.invocation program args path text' fs₁)).run fs₁ = (.ok result, fs') ∧
              result.exitCode = 0 ∧ result.stdout = content) ∧
        ∀ e, ((Plugin.command exec name program args).run path text').run fs₁ = (.error e, fs') ↔
          (∃ e',
            (exec (Plugin.invocation program args path text' fs₁)).run fs₁ = (.error e', fs') ∧
            e = .plugin name path e'.message) ∨
          ∃ result,
            (exec (Plugin.invocation program args path text' fs₁)).run fs₁ = (.ok result, fs') ∧
            result.exitCode ≠ 0 ∧ e = .plugin name path (Plugin.complaint program result) := by
  refine ⟨plugins_registered calls label, fun _ _ => Plugin.run_runAll_eq_ok_iff,
    fun _ _ => Plugin.run_runAll_eq_error_iff, fun hother => ?_, fun calls' h => ?_,
    fun done p e fs' calls' hfails hstart => ?_, fun _ _ _ _ _ _ _ _ =>
      ⟨fun _ => Plugin.run_command_eq_ok_iff, fun _ => Plugin.run_command_eq_error_iff⟩⟩
  · have hnone : (registered calls).plugins label = [] := by
      rw [plugins_registered, List.filter_eq_nil_iff.mpr (by simpa using hother)]
      rfl
    unfold run
    rw [hnone]
    rfl
  · unfold run
    rw [plugins_registered, plugins_registered, h]
  · rw [← plugins_registered] at hstart
    exact hfails.run_runAll hstart

end PluginRegistry

end Stencil
