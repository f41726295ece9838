import Mathlib.Tactic.ByContra
import Scanout.Gl.Probe
import Scanout.Proofs.Proc.Runs
import Scanout.Simulation.GraphicsLibrary

/-!
# What the probe of a context finds

A driver tells the display's extensions in one text, with blanks between the names. The probe is to
accept a driver that has what the import of images needs, and to name what another one lacks: this
is `Exact`. It looks for each name anywhere in the text, and for the first without the letters in
front, and it takes every address as it comes. `ofCurrent_probes` says for which drivers that is
exact.
-/

namespace Scanout

namespace Text

theorem occursIn_iff {word text : List Char} : occursIn word text ↔ word <:+: text := by
  induction text with
  | nil => rw [occursIn, List.isEmpty_iff, List.infix_nil]
  | cons c rest ih =>
    rw [occursIn, Bool.or_eq_true, List.isPrefixOf_iff_prefix, ih, List.infix_cons_iff]

theorem infix_intercalate {separator part : List Char} {parts : List (List Char)}
    (member : part ∈ parts) : part <:+: separator.intercalate parts := by
  induction parts with
  | nil => cases member
  | cons first rest ih =>
    cases rest with
    | nil =>
      obtain rfl := List.mem_singleton.mp member
      refine ⟨[], [], ?_⟩
      rw [List.intercalate_singleton, List.append_nil, List.nil_append]
    | cons next rest =>
      rw [List.intercalate_cons_cons, List.append_assoc]
      rcases List.mem_cons.mp member with rfl | later
      · exact (List.prefix_append _ _).isInfix
      · exact (ih later).trans ((List.suffix_append _ _).trans (List.suffix_append _ _)).isInfix

theorem infix_of_mem_splitOn {part text : List Char} {separator : Char}
    (member : part ∈ text.splitOn separator) : part <:+: text := by
  have found : part <:+: [separator].intercalate (text.splitOn separator) :=
    infix_intercalate member
  rwa [List.intercalate_splitOn] at found

end Text

namespace Gl

open Proc

/-- A driver with a current context, as far as the probe asks for it. -/
structure Driver where
  displayExtensions : String
  version : String
  number : Version
  readable : Version.ofText version = .ok number
  extensions : List String
  /-- Where a function is. Zero if there is none of the name. -/
  address : String → UInt64

def displayNames : List String := ["EGL_EXT_image_dma_buf_import", "EGL_KHR_image_base"]

def entryPoints : List String :=
  ["eglCreateImageKHR", "eglDestroyImageKHR", "glEGLImageTargetTexture2DOES"]

namespace Driver

variable (d : Driver)

def Gives : Event interface → Prop
  | .answered .currentContext (current : Bool) => current = true
  | .answered .currentDisplay (current : Bool) => current = true
  | .answered .displayExtensions (names : Except String String) => names = .ok d.displayExtensions
  | .answered .version (text : String) => text = d.version
  | .answered .extensionNames (names : List String) => names = d.extensions
  | .answered .extensionText (text : String) => text.splitOn " " = d.extensions
  | .answered (.entryPoint name) (address : UInt64) => address = d.address name
  | _ => True

/-- The display has an extension, by its whole name. -/
def Lists (name : String) : Prop := name.toList ∈ d.displayExtensions.toList.splitOn ' '

instance (name : String) : Decidable (d.Lists name) :=
  inferInstanceAs (Decidable (_ ∈ _))

/-- What the import of images needs and the driver does not have. -/
def lacks : List String :=
  displayNames.filter (fun name => !d.Lists name) ++
    if requiredExtension ∈ d.extensions then [] else [requiredExtension]

def missing : List String := missingExtensions d.displayExtensions d.extensions

def context : Context where
  createImage := d.address "eglCreateImageKHR"
  destroyImage := d.address "eglDestroyImageKHR"
  imageTargetTexture := d.address "glEGLImageTargetTexture2DOES"

def Mentions (word : String) : Prop := word.toList <:+: d.displayExtensions.toList

theorem Lists.mentions {d : Driver} {name : String} (lists : d.Lists name) : d.Mentions name :=
  Text.infix_of_mem_splitOn lists

end Driver

theorem supportedExtensions_runs {d : Driver} {events : List (Event interface)}
    {names : List String} (run : (Context.supportedExtensions d.number).Runs events names)
    (gives : ∀ event ∈ events, d.Gives event) : names = d.extensions := by
  rw [Context.supportedExtensions] at run
  split at run
  · obtain rfl := runs_ask.mp run
    exact gives _ (List.mem_singleton_self _)
  · obtain ⟨text, _, rfl, last⟩ := runs_ask_bind.mp run
    obtain ⟨rfl, rfl⟩ := runs_pure.mp last
    exact gives (.answered .extensionText text) (List.mem_cons_self ..)

theorem resolve_runs {d : Driver} {events : List (Event interface)} {c : Context}
    (run : Context.resolve.Runs events c) (gives : ∀ event ∈ events, d.Gives event) :
    c = d.context := by
  obtain ⟨create, _, rfl, run₁⟩ := runs_ask_bind.mp run
  obtain ⟨destroy, _, rfl, run₂⟩ := runs_ask_bind.mp run₁
  obtain ⟨target, _, rfl, run₃⟩ := runs_ask_bind.mp run₂
  obtain ⟨_, _, _, rfl, told, run₄⟩ := runs_bind.mp run₃
  obtain ⟨rfl, rfl⟩ := runs_pure.mp run₄
  have created := gives (.answered (.entryPoint "eglCreateImageKHR") create) (by simp)
  have destroyed := gives (.answered (.entryPoint "eglDestroyImageKHR") destroy) (by simp)
  have targeted := gives (.answered (.entryPoint "glEGLImageTargetTexture2DOES") target) (by simp)
  rw [Driver.context, ← created, ← destroyed, ← targeted]

def Driver.outcome (d : Driver) : Except Fault Context :=
  if d.missing = [] then .ok d.context else .error (.refused (.extensionsMissing d.missing))

theorem ofCurrent_runs {d : Driver} {events : List (Event interface)}
    {outcome : Except Fault Context} (run : Context.ofCurrent.Runs events outcome)
    (gives : ∀ event ∈ events, d.Gives event) : outcome = d.outcome := by
  obtain ⟨current, _, rfl, run₁⟩ := runs_ask_bind.mp run
  obtain rfl : current = true := gives (.answered .currentContext current) (by simp)
  obtain ⟨display, _, rfl, run₂⟩ := runs_ask_bind.mp run₁
  obtain rfl : display = true := gives (.answered .currentDisplay display) (by simp)
  obtain ⟨names, _, rfl, run₃⟩ := runs_ask_bind.mp run₂
  obtain rfl : names = .ok d.displayExtensions :=
    gives (.answered .displayExtensions names) (by simp)
  obtain ⟨text, _, rfl, run₄⟩ := runs_ask_bind.mp run₃
  obtain rfl : text = d.version := gives (.answered .version text) (by simp)
  rw [d.readable] at run₄
  obtain ⟨_, supported, _, rfl, listed, run₅⟩ := runs_bind.mp run₄
  obtain rfl := supportedExtensions_runs listed fun event member => gives event (by simp [member])
  cases found : missingExtensions d.displayExtensions d.extensions with
  | nil =>
    simp only [found] at run₅
    obtain ⟨_, c, _, rfl, resolved, last⟩ := runs_bind.mp run₅
    obtain ⟨rfl, rfl⟩ := runs_pure.mp last
    obtain rfl := resolve_runs resolved fun event member => gives event (by simp [member])
    rw [Driver.outcome, Driver.missing, found, if_pos rfl]
  | cons name others =>
    simp only [found] at run₅
    obtain ⟨rfl, rfl⟩ := runs_pure.mp run₅
    rw [Driver.outcome, Driver.missing, found, if_neg (List.cons_ne_nil _ _)]

namespace Driver

variable {d : Driver}

theorem outcome_ok_iff : (∃ c, d.outcome = .ok c) ↔ d.missing = [] := by
  rw [outcome]
  split
  case isTrue none => exact iff_of_true ⟨_, rfl⟩ none
  case isFalse some => exact iff_of_false nofun some

theorem outcome_eq_error {fault : Fault} (failed : d.outcome = .error fault) :
    fault = .refused (.extensionsMissing d.missing) := by
  rw [outcome] at failed
  split at failed <;> cases failed
  rfl

variable (d) in
theorem mem_unless {name : String} :
    name ∈ (if requiredExtension ∈ d.extensions then [] else [requiredExtension]) ↔
      name = requiredExtension ∧ name ∉ d.extensions := by
  split
  case isTrue present =>
    refine iff_of_false List.not_mem_nil ?_
    rintro ⟨rfl, absent⟩
    exact absent present
  case isFalse absent =>
    rw [List.mem_singleton]
    refine ⟨?_, And.left⟩
    rintro rfl
    exact ⟨rfl, absent⟩

theorem mem_missing {name : String} : name ∈ d.missing ↔
    name ∈ requiredDisplayExtensions ∧ ¬d.Mentions name ∨
      name = requiredExtension ∧ name ∉ d.extensions := by
  rw [missing, missingExtensions, List.mem_append, List.mem_filter, Bool.not_eq_true',
    ← Bool.not_eq_true, Text.occursIn_iff]
  exact or_congr_right d.mem_unless

end Driver

/-- What a probe is for. -/
structure Exact (d : Driver) (outcome : Except Fault Context) : Prop where
  ok_iff : (∃ c, outcome = .ok c) ↔ d.lacks = [] ∧ ∀ name ∈ entryPoints, d.address name ≠ 0
  refused : ∀ fault, outcome = .error fault → ∃ e, fault = .refused e ∧ e.kind = .capabilityMissing
  named : d.lacks ≠ [] → outcome = .error (.refused (.extensionsMissing d.lacks))

namespace Driver

variable {d : Driver}

theorem mem_lacks {name : String} : name ∈ d.lacks ↔
    name ∈ displayNames ∧ ¬d.Lists name ∨ name = requiredExtension ∧ name ∉ d.extensions := by
  rw [lacks, List.mem_append, List.mem_filter, Bool.not_eq_true', decide_eq_false_iff_not]
  exact or_congr_right d.mem_unless

/-- What is looked for in place of the first name is the end of it. -/
theorem Lists.mentions_import (lists : d.Lists "EGL_EXT_image_dma_buf_import") :
    d.Mentions "EXT_image_dma_buf_import" := by
  have ending : "EXT_image_dma_buf_import".toList <:+ "EGL_EXT_image_dma_buf_import".toList :=
    ⟨"EGL_".toList, by decide⟩
  exact ending.isInfix.trans lists.mentions

theorem missing_eq_lacks_iff : d.missing = d.lacks ↔
    d.Lists "EGL_EXT_image_dma_buf_import" ∧
      (d.Mentions "EGL_KHR_image_base" → d.Lists "EGL_KHR_image_base") := by
  constructor
  · intro same
    have lacked {name : String} (needed : name ∈ displayNames) (absent : ¬d.Lists name) :
        name ∈ d.missing := by
      rw [same]
      exact mem_lacks.mpr (.inl ⟨needed, absent⟩)
    refine ⟨?_, ?_⟩
    · by_contra absent
      rcases mem_missing.mp (lacked (by decide) absent) with ⟨needed, -⟩ | ⟨needed, -⟩
      · exact absurd needed (by decide)
      · exact absurd needed (by decide)
    · intro mentions
      by_contra absent
      rcases mem_missing.mp (lacked (by decide) absent) with ⟨-, unmentioned⟩ | ⟨needed, -⟩
      · exact unmentioned mentions
      · exact absurd needed (by decide)
  · rintro ⟨whole, named⟩
    have found :
        Text.occursIn "EXT_image_dma_buf_import".toList d.displayExtensions.toList = true :=
      Text.occursIn_iff.mpr whole.mentions_import
    have base : Text.occursIn "EGL_KHR_image_base".toList d.displayExtensions.toList
        = decide (d.Lists "EGL_KHR_image_base") := by
      rw [Bool.eq_iff_iff, Text.occursIn_iff, decide_eq_true_iff]
      exact ⟨named, Lists.mentions⟩
    rw [missing, missingExtensions, lacks]
    refine congrArg (· ++ _) ?_
    simp only [requiredDisplayExtensions, displayNames, List.filter_cons, List.filter_nil, found,
      base, whole, decide_true, Bool.not_true, Bool.false_eq_true, if_false]

theorem missing_eq_nil (whole : d.lacks = []) : d.missing = [] := by
  have lists {name : String} (needed : name ∈ displayNames) : d.Lists name := by
    by_contra absent
    have lacked := mem_lacks.mpr (.inl ⟨needed, absent⟩)
    rw [whole] at lacked
    cases lacked
  rw [missing_eq_lacks_iff.mpr ⟨lists (by decide), fun _ => lists (by decide)⟩, whole]

theorem exact_iff : Exact d d.outcome ↔
    d.missing = d.lacks ∧ (d.lacks = [] → ∀ name ∈ entryPoints, d.address name ≠ 0) := by
  constructor
  · rintro ⟨ok_iff, -, named⟩
    by_cases whole : d.lacks = []
    · have none := missing_eq_nil whole
      exact ⟨none.trans whole.symm, fun _ => (ok_iff.mp (outcome_ok_iff.mpr none)).2⟩
    · refine ⟨?_, fun none => absurd none whole⟩
      have refused := outcome_eq_error (named whole)
      injection refused with refused
      injection refused with same
      exact same.symm
  · rintro ⟨same, addresses⟩
    refine ⟨?_, ?_, ?_⟩
    · rw [outcome_ok_iff, same]
      exact ⟨fun none => ⟨none, addresses none⟩, And.left⟩
    · intro fault failed
      exact ⟨_, outcome_eq_error failed, rfl⟩
    · intro some
      rw [← same] at some ⊢
      rw [outcome, if_neg some]

end Driver

/-- What comes of a probe, and when this is what it is for. -/
structure Probes (d : Driver) (outcome : Except Fault Context) : Prop where
  ok_iff : (∃ c, outcome = .ok c) ↔
    (∀ word ∈ requiredDisplayExtensions, d.Mentions word) ∧ requiredExtension ∈ d.extensions
  addresses : ∀ c, outcome = .ok c → c = d.context
  refused : ∀ fault, outcome = .error fault → ∃ names, fault = .refused (.extensionsMissing names) ∧
    ∀ name, name ∈ names ↔ name ∈ requiredDisplayExtensions ∧ ¬d.Mentions name ∨
      name = requiredExtension ∧ name ∉ d.extensions
  /-- A driver that has everything is not refused. -/
  complete : d.lacks = [] → outcome = .ok d.context
  exact_iff : Exact d outcome ↔ d.Lists "EGL_EXT_image_dma_buf_import" ∧
    (d.Mentions "EGL_KHR_image_base" → d.Lists "EGL_KHR_image_base") ∧
      (d.lacks = [] → ∀ name ∈ entryPoints, d.address name ≠ 0)

theorem ofCurrent_probes {d : Driver} {events : List (Event interface)}
    {outcome : Except Fault Context} (run : Context.ofCurrent.Runs events outcome)
    (gives : ∀ event ∈ events, d.Gives event) : Probes d outcome := by
  obtain rfl := ofCurrent_runs run gives
  refine ⟨?ok_iff, ?addresses, ?refused, ?complete, ?exact_iff⟩
  case ok_iff =>
    rw [Driver.outcome_ok_iff, List.eq_nil_iff_forall_not_mem]
    constructor
    · intro none
      refine ⟨fun word needed => ?_, ?_⟩
      · by_contra absent
        exact none word (Driver.mem_missing.mpr (.inl ⟨needed, absent⟩))
      · by_contra absent
        exact none _ (Driver.mem_missing.mpr (.inr ⟨rfl, absent⟩))
    · rintro ⟨mentioned, present⟩ name lacking
      rcases Driver.mem_missing.mp lacking with ⟨needed, absent⟩ | ⟨rfl, absent⟩
      · exact absent (mentioned name needed)
      · exact absent present
  case addresses =>
    intro c accepted
    rw [Driver.outcome] at accepted
    split at accepted <;> cases accepted
    rfl
  case refused =>
    intro fault failed
    exact ⟨d.missing, Driver.outcome_eq_error failed, fun name => Driver.mem_missing⟩
  case complete =>
    intro whole
    rw [Driver.outcome, if_pos (Driver.missing_eq_nil whole)]
  case exact_iff =>
    rw [Driver.exact_iff, Driver.missing_eq_lacks_iff, and_assoc]

namespace Sample

/-- Of the names with `dma_buf` in them it has only the longer one. -/
def modifiers : Driver where
  displayExtensions := "EGL_EXT_image_dma_buf_import_modifiers EGL_KHR_image_base"
  version := "OpenGL ES 3.2"
  number := ⟨3, 2⟩
  readable := rfl
  extensions := [requiredExtension]
  address _ := 1

/-- It has all extensions, but not all of their functions. -/
def hollow : Driver where
  displayExtensions := "EGL_KHR_image_base EGL_EXT_image_dma_buf_import"
  version := "OpenGL ES 3.2"
  number := ⟨3, 2⟩
  readable := rfl
  extensions := [requiredExtension]
  address name := if name = "eglCreateImageKHR" then 0 else 1

def library (d : Driver) (absent : List String) : Simulation.GraphicsLibrary where
  context := true
  display := true
  displayExtensions := some d.displayExtensions
  version := d.version
  extensions := d.extensions
  absent := absent
  stop := none
  counter := 0
  pending := []
  lost := none
  failures := []

def accepted (d : Driver) : List (Event interface) :=
  [.answered .currentContext true, .answered .currentDisplay true,
    .answered .displayExtensions (.ok d.displayExtensions), .answered .version d.version,
    .answered .extensionNames d.extensions,
    .answered (.entryPoint "eglCreateImageKHR") (d.address "eglCreateImageKHR"),
    .answered (.entryPoint "eglDestroyImageKHR") (d.address "eglDestroyImageKHR"),
    .answered (.entryPoint "glEGLImageTargetTexture2DOES")
      (d.address "glEGLImageTargetTexture2DOES"),
    .reported .imageInteropReady]

theorem accepted_gives (d : Driver) : ∀ event ∈ accepted d, d.Gives event := by
  have found (name : String) : d.Gives (.answered (.entryPoint name) (d.address name)) := rfl
  simp only [accepted, List.forall_mem_cons]
  exact ⟨rfl, rfl, rfl, rfl, rfl, found _, found _, found _, trivial, List.forall_mem_nil _⟩

end Sample

/-- It is accepted, and this is not what the probe is for. -/
theorem ofCurrent_probes_modifiers :
    let probe := Context.ofCurrent.run Simulation.GraphicsLibrary.answer
      (Sample.library Sample.modifiers [])
    probe.1 = Sample.accepted Sample.modifiers ∧ Probes Sample.modifiers probe.2.1 := by
  intro probe
  have run := runs_run (I := interface) Simulation.GraphicsLibrary.answer Context.ofCurrent
    (Sample.library Sample.modifiers [])
  have happened : probe.1 = Sample.accepted Sample.modifiers := rfl
  have gives : ∀ event ∈ probe.1, Sample.modifiers.Gives event := by
    rw [happened]
    exact Sample.accepted_gives Sample.modifiers
  exact ⟨happened, ofCurrent_probes run gives⟩

/-- Both are accepted, the one with a name that only contains the one that is needed, the other
without a function that is needed. -/
theorem ofCurrent_accepts_too_much :
    let probe d absent :=
      Context.ofCurrent.run Simulation.GraphicsLibrary.answer (Sample.library d absent)
    ((probe Sample.modifiers []).1 = Sample.accepted Sample.modifiers ∧
      (probe Sample.modifiers []).2.1 = .ok Sample.modifiers.context ∧
      Sample.modifiers.lacks = ["EGL_EXT_image_dma_buf_import"] ∧
      ¬Exact Sample.modifiers (probe Sample.modifiers []).2.1) ∧
    ((probe Sample.hollow ["eglCreateImageKHR"]).1 = Sample.accepted Sample.hollow ∧
      (probe Sample.hollow ["eglCreateImageKHR"]).2.1 = .ok Sample.hollow.context ∧
      Sample.hollow.lacks = [] ∧
      ¬Exact Sample.hollow (probe Sample.hollow ["eglCreateImageKHR"]).2.1) := by
  have lacking : Sample.modifiers.lacks = ["EGL_EXT_image_dma_buf_import"] := by decide +kernel
  have whole : Sample.hollow.lacks = [] := by decide +kernel
  refine ⟨⟨rfl, rfl, lacking, ?_⟩, rfl, rfl, whole, ?_⟩
  · intro exact
    have none := (exact.ok_iff.mp ⟨_, rfl⟩).1
    rw [lacking] at none
    cases none
  · intro exact
    exact (exact.ok_iff.mp ⟨_, rfl⟩).2 "eglCreateImageKHR" (by decide) rfl

end Gl

end Scanout
