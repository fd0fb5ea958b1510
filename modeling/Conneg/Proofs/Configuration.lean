import Conneg.Codec.Text
import Conneg.Settings.Basic

/-!
# Conneg.Proofs.Configuration

What configuration keeps, over every run of configuration calls.

1. A converter is built from the media types of its codec, from given ones or
   from settings, and is then configured by calls, any of which may be refused
   (`Converter.Reached`). A builder that refuses leaves nothing to go on with; a
   setter that refuses leaves the converter, and the run goes on.
2. `Call.Refused` states when a call is refused and with which error, in terms
   of the settings alone.
3. Main statement: `reached_guarantee`. Every converter that is reached is well
   configured and has the media types of its construction, and a setter that
   refuses has changed nothing.
-/

namespace Conneg.Converter

/-- A call that configures a converter. -/
inductive Call where
  | setResolver (resolver : Option Resolver)
  | withResolver (resolver : Resolver)
  | setStrict (strict : Bool)
  | withStrict (strict : Bool)
  | setForm (form : SerializedForm)
  | withForm (form : SerializedForm)

namespace Call

/-- The answer to a call, and the converter that it leaves, if it leaves one. -/
def perform (c : Converter) : Call → Except ConfigError Unit × Option Converter
  | setResolver resolver => ((c.setResolver resolver).1, some (c.setResolver resolver).2)
  | withResolver resolver => (.ok (), some (c.withResolver resolver))
  | setStrict strict => ((c.setStrict strict).1, some (c.setStrict strict).2)
  | withStrict strict => ((c.withStrict strict).map fun _ => (), (c.withStrict strict).toOption)
  | setForm form => (.ok (), some (c.setForm form))
  | withForm form => (.ok (), some (c.withForm form))

/-- The call changes the converter in place, so the caller keeps it in any case. -/
def InPlace : Call → Prop
  | setResolver _ | setStrict _ | setForm _ => True
  | withResolver _ | withStrict _ | withForm _ => False

/-- The call turns strict matching on. -/
def EnablesStrict (k : Call) : Prop := k = .setStrict true ∨ k = .withStrict true

/-- The call takes the resolver away. -/
def ClearsResolver (k : Call) : Prop := k = .setResolver none

/-- When a call is refused, and why, in terms of the settings of the converter. -/
inductive Refused (c : Converter) : Call → ConfigError → Prop where
  | noTypes {k : Call} (hk : k.EnablesStrict) (hs : c.supported = []) :
      Refused c k .strictWithoutTypes
  | noResolver {k : Call} (hk : k.EnablesStrict) (hs : c.supported ≠ [])
      (hr : c.resolver = none) : Refused c k .strictWithoutResolver
  | resolverNeeded {k : Call} (hk : k.ClearsResolver) (hs : c.strict = true) :
      Refused c k .strictWithoutResolver

end Call

/-- The converters that configuration reaches, for a codec and the media types
of the construction. -/
inductive Reached (codec : Codec) : List MediaType → Converter → Prop where
  | ofCodec : Reached codec codec.mediaTypes (ofCodec codec)
  | ofTypes (types : List MediaType) : Reached codec types (ofTypes codec types)
  | ofSettings {s : Settings} {c : Converter} (h : (ofSettings codec s).value = .ok c) :
      Reached codec (s.supported.getD codec.mediaTypes) c
  | call {types : List MediaType} {c d : Converter} (k : Call) (h : Reached codec types c)
      (hk : (k.perform c).2 = some d) : Reached codec types d

/-! ## one call -/

/-- All that setting the resolver can do. -/
theorem setResolver_cases (c : Converter) (resolver : Option Resolver) :
    (resolver = none ∧ c.strict = true ∧
        c.setResolver resolver = (.error .strictWithoutResolver, c)) ∨
      ((resolver = none → c.strict = false) ∧
        c.setResolver resolver = (.ok (), { c with resolver := resolver })) := by
  unfold setResolver
  cases hr : resolver with
  | none =>
    cases hs : c.strict with
    | true => exact .inl ⟨rfl, rfl, rfl⟩
    | false => exact .inr ⟨fun _ => rfl, rfl⟩
  | some r => exact .inr ⟨by simp, rfl⟩

/-- All that turning strict matching on or off can do. -/
theorem setStrict_cases (c : Converter) (strict : Bool) :
    (strict = true ∧ c.supported = [] ∧
        c.setStrict strict = (.error .strictWithoutTypes, c)) ∨
      (strict = true ∧ c.supported ≠ [] ∧ c.resolver = none ∧
        c.setStrict strict = (.error .strictWithoutResolver, c)) ∨
      ((strict = true → c.supported ≠ [] ∧ c.resolver ≠ none) ∧
        c.setStrict strict = (.ok (), { c with strict := strict })) := by
  unfold setStrict
  cases strict with
  | false => exact .inr (.inr ⟨by simp, rfl⟩)
  | true =>
    cases hs : c.supported with
    | nil => exact .inl ⟨rfl, rfl, rfl⟩
    | cons m ms =>
      cases hr : c.resolver with
      | none => exact .inr (.inl ⟨rfl, by simp, rfl, rfl⟩)
      | some r => exact .inr (.inr ⟨by simp, rfl⟩)

/-- A strict converter does not give up its resolver; nothing else is refused here. -/
theorem setResolver_error_iff {c : Converter} {resolver : Option Resolver} {e : ConfigError} :
    (c.setResolver resolver).1 = .error e ↔
      e = .strictWithoutResolver ∧ resolver = none ∧ c.strict = true := by
  obtain ⟨hr, hs, h⟩ | ⟨hr, h⟩ := c.setResolver_cases resolver
  · rw [h]
    exact ⟨fun he => ⟨(Except.error.inj he).symm, hr, hs⟩, fun he => by rw [he.1]⟩
  · rw [h]
    constructor
    · intro he
      cases he
    · rintro ⟨-, hnone, hs⟩
      rw [hr hnone] at hs
      cases hs

/-- Strict matching is refused for lack of supported types, which are looked at first,
or of a resolver. -/
theorem setStrict_error_iff {c : Converter} {strict : Bool} {e : ConfigError} :
    (c.setStrict strict).1 = .error e ↔
      strict = true ∧ ((e = .strictWithoutTypes ∧ c.supported = []) ∨
        (e = .strictWithoutResolver ∧ c.supported ≠ [] ∧ c.resolver = none)) := by
  obtain ⟨hb, hs, h⟩ | ⟨hb, hs, hr, h⟩ | ⟨hb, h⟩ := c.setStrict_cases strict
  · rw [h]
    constructor
    · intro he
      exact ⟨hb, .inl ⟨(Except.error.inj he).symm, hs⟩⟩
    · rintro ⟨-, ⟨rfl, -⟩ | ⟨-, hne, -⟩⟩
      · rfl
      · exact absurd hs hne
  · rw [h]
    constructor
    · intro he
      exact ⟨hb, .inr ⟨(Except.error.inj he).symm, hs, hr⟩⟩
    · rintro ⟨-, ⟨-, hnil⟩ | ⟨rfl, -, -⟩⟩
      · exact absurd hnil hs
      · rfl
  · rw [h]
    constructor
    · intro he
      cases he
    · rintro ⟨htrue, ⟨-, hnil⟩ | ⟨-, -, hnone⟩⟩
      · exact absurd hnil (hb htrue).1
      · exact absurd hnone (hb htrue).2

/-- The builder form refuses what the setter refuses. -/
theorem withStrict_error_iff {c : Converter} {strict : Bool} {e : ConfigError} :
    c.withStrict strict = .error e ↔ (c.setStrict strict).1 = .error e :=
  unlessRefused_eq_error

/-- A setter that refuses leaves the converter as it was. -/
theorem setResolver_unchanged {c : Converter} {resolver : Option Resolver} {e : ConfigError}
    (h : (c.setResolver resolver).1 = .error e) : (c.setResolver resolver).2 = c := by
  obtain ⟨-, -, hc⟩ | ⟨-, hc⟩ := c.setResolver_cases resolver
  · rw [hc]
  · rw [hc] at h
    cases h

/-- Where strict matching is refused, it is not turned on. -/
theorem setStrict_unchanged {c : Converter} {strict : Bool} {e : ConfigError}
    (h : (c.setStrict strict).1 = .error e) : (c.setStrict strict).2 = c := by
  obtain ⟨-, -, hc⟩ | ⟨-, -, -, hc⟩ | ⟨-, hc⟩ := c.setStrict_cases strict
  · rw [hc]
  · rw [hc]
  · rw [hc] at h
    cases h

/-- A call is refused exactly when the settings say so, and with that error. -/
theorem Call.perform_error_iff {c : Converter} {k : Call} {e : ConfigError} :
    (k.perform c).1 = .error e ↔ Refused c k e := by
  constructor
  · intro h
    cases k with
    | setResolver resolver =>
      obtain ⟨rfl, rfl, hs⟩ := setResolver_error_iff.1 h
      exact .resolverNeeded rfl hs
    | setStrict strict =>
      obtain ⟨rfl, ⟨rfl, hs⟩ | ⟨rfl, hs, hr⟩⟩ := setStrict_error_iff.1 h
      · exact .noTypes (.inl rfl) hs
      · exact .noResolver (.inl rfl) hs hr
    | withStrict strict =>
      have h := withStrict_error_iff.1 (map_eq_error.1 h)
      obtain ⟨rfl, ⟨rfl, hs⟩ | ⟨rfl, hs, hr⟩⟩ := setStrict_error_iff.1 h
      · exact .noTypes (.inr rfl) hs
      · exact .noResolver (.inr rfl) hs hr
    | withResolver resolver => cases h
    | setForm form => cases h
    | withForm form => cases h
  · intro h
    cases h with
    | noTypes hk hs =>
      have h := setStrict_error_iff.2 ⟨rfl, .inl ⟨rfl, hs⟩⟩
      obtain rfl | rfl := hk
      · exact h
      · exact map_eq_error.2 (withStrict_error_iff.2 h)
    | noResolver hk hs hr =>
      have h := setStrict_error_iff.2 ⟨rfl, .inr ⟨rfl, hs, hr⟩⟩
      obtain rfl | rfl := hk
      · exact h
      · exact map_eq_error.2 (withStrict_error_iff.2 h)
    | resolverNeeded hk hs =>
      obtain rfl := hk
      exact setResolver_error_iff.2 ⟨rfl, rfl, hs⟩

/-- A call in place that is refused changes nothing. -/
theorem Call.perform_unchanged {c : Converter} {k : Call} {e : ConfigError} (hk : k.InPlace)
    (h : (k.perform c).1 = .error e) : (k.perform c).2 = some c := by
  cases k with
  | setResolver resolver => exact congrArg some (setResolver_unchanged h)
  | setStrict strict => exact congrArg some (setStrict_unchanged h)
  | setForm form => cases h
  | withResolver resolver => exact hk.elim
  | withStrict strict => exact hk.elim
  | withForm form => exact hk.elim

/-! ## every call -/

/-- What holds of a converter all along its configuration. -/
structure Configured (codec : Codec) (types : List MediaType) (c : Converter) : Prop where
  codec : c.codec = codec
  supported : c.supported = types
  wellConfigured : c.WellConfigured

section

variable {codec : Codec} {types : List MediaType} {c d : Converter}

/-- New converters are lenient. -/
theorem configured_ofTypes (codec : Codec) (types : List MediaType) :
    Configured codec types (ofTypes codec types) :=
  ⟨rfl, rfl, wellConfigured_ofTypes codec types⟩

/-- Setting the resolver keeps what configuration guarantees, refused or not. -/
theorem Configured.setResolver (resolver : Option Resolver) (h : Configured codec types c) :
    Configured codec types (c.setResolver resolver).2 := by
  have hw := h.wellConfigured.setResolver resolver
  obtain ⟨-, -, hc⟩ | ⟨-, hc⟩ := c.setResolver_cases resolver
  · rw [hc]
    exact h
  · rw [hc] at hw ⊢
    exact ⟨h.codec, h.supported, hw⟩

/-- So does turning strict matching on or off. -/
theorem Configured.setStrict (strict : Bool) (h : Configured codec types c) :
    Configured codec types (c.setStrict strict).2 := by
  have hw := h.wellConfigured.setStrict strict
  obtain ⟨-, -, hc⟩ | ⟨-, -, -, hc⟩ | ⟨-, hc⟩ := c.setStrict_cases strict
  · rw [hc]
    exact h
  · rw [hc]
    exact h
  · rw [hc] at hw ⊢
    exact ⟨h.codec, h.supported, hw⟩

/-- A builder hands on what its setter leaves, unless the setter refuses. -/
theorem Configured.unlessRefused {x : Except ConfigError Unit × Converter}
    (h : Configured codec types x.2) (hd : Converter.unlessRefused x = .ok d) :
    Configured codec types d := by
  obtain rfl := unlessRefused_eq_ok.1 hd
  exact h

/-- One call keeps what holds of a converter. -/
theorem Configured.perform {k : Call} (h : Configured codec types c)
    (hk : (k.perform c).2 = some d) : Configured codec types d := by
  cases k with
  | setResolver resolver =>
    obtain rfl := Option.some.inj hk
    exact h.setResolver resolver
  | withResolver resolver =>
    obtain rfl := Option.some.inj hk
    exact ⟨h.codec, h.supported, h.wellConfigured.withResolver resolver⟩
  | setStrict strict =>
    obtain rfl := Option.some.inj hk
    exact h.setStrict strict
  | withStrict strict =>
    have hd : c.withStrict strict = .ok d := by
      cases hw : c.withStrict strict with
      | ok c' => simpa [Call.perform, hw, Except.toOption] using hk
      | error e => simp [Call.perform, hw, Except.toOption] at hk
    exact (h.setStrict strict).unlessRefused hd
  | setForm form =>
    obtain rfl := Option.some.inj hk
    exact ⟨h.codec, h.supported, h.wellConfigured.setForm form⟩
  | withForm form =>
    obtain rfl := Option.some.inj hk
    exact ⟨h.codec, h.supported, h.wellConfigured.withForm form⟩

/-- Settings are applied to a converter of their own media types, or else of those of
the codec. -/
theorem configured_start (codec : Codec) (s : Settings) :
    Configured codec (s.supported.getD codec.mediaTypes) (s.start codec) := by
  unfold Settings.start
  cases s.supported with
  | none => exact configured_ofTypes codec codec.mediaTypes
  | some types => exact configured_ofTypes codec types

/-- The resolver of settings is set while the converter is still lenient. -/
theorem configured_resolved {s : Settings} (h : s.resolved codec = .ok c) :
    Configured codec (s.supported.getD codec.mediaTypes) c := by
  have hstart := configured_start codec s
  unfold Settings.resolved at h
  cases hs : s.resolver? with
  | none =>
    rw [hs] at h
    obtain rfl := Except.ok.inj h
    exact hstart
  | some resolver =>
    rw [hs] at h
    exact (hstart.setResolver (some resolver)).unlessRefused h

/-- What is built from settings has their media types, or else those of the codec. -/
theorem configured_ofSettings {s : Settings} (h : (ofSettings codec s).value = .ok c) :
    Configured codec (s.supported.getD codec.mediaTypes) c := by
  rw [value_ofSettings] at h
  obtain ⟨r, hr, h⟩ := bind_eq_ok.1 h
  obtain ⟨d, hd, h⟩ := bind_eq_ok.1 h
  obtain rfl := Except.ok.inj h
  have hc := ((configured_resolved hr).setStrict s.strict).unlessRefused hd
  exact ⟨hc.codec, hc.supported, hc.wellConfigured.setForm s.form⟩

/-- What holds of a converter all along its configuration holds of every one
that is reached. -/
theorem Reached.configured (h : Reached codec types c) : Configured codec types c := by
  induction h with
  | ofCodec => exact configured_ofTypes codec codec.mediaTypes
  | ofTypes types => exact configured_ofTypes codec types
  | ofSettings hs => exact configured_ofSettings hs
  | call k _ hk ih => exact ih.perform hk

end

/-! ## the guarantee -/

/-- **What configuration guarantees**, after every run of calls, refused ones
included: strict matching has supported types and a resolver, and the supported
types are those of the construction. From there a call is refused exactly as
`Call.Refused` states, and one in place that is refused changes nothing. -/
theorem reached_guarantee {codec : Codec} {types : List MediaType} {c : Converter}
    (h : Reached codec types c) :
    (c.strict = true → c.supported ≠ [] ∧ c.resolver ≠ none) ∧
      c.supported = types ∧
      (∀ (k : Call) (e : ConfigError), (k.perform c).1 = .error e ↔ k.Refused c e) ∧
      ∀ (k : Call) (e : ConfigError), k.InPlace → (k.perform c).1 = .error e →
        (k.perform c).2 = some c := by
  have hc := h.configured
  refine ⟨fun hs => ?_, hc.supported, fun k e => Call.perform_error_iff,
    fun k e => Call.perform_unchanged⟩
  obtain ⟨hsup, hres⟩ := hc.wellConfigured hs
  exact ⟨hsup, Option.isSome_iff_ne_none.1 hres⟩

/-- A strict converter from settings has supported types and a resolver. It keeps
the resolver until strict matching is off; without the resolver strict matching
cannot come back. -/
theorem reached_guarantee_json :
    let strict : Converter :=
      ⟨.text, [.applicationJson], some (HeaderResolver.toResolver ⟨none⟩), true, .text⟩
    let c : Converter := ⟨.text, [.applicationJson], none, false, .text⟩
    (Reached .text [.applicationJson] strict ∧ strict.strict = true ∧
        strict.supported ≠ [] ∧ strict.resolver ≠ none) ∧
      Reached .text [.applicationJson] c ∧
      ((Call.setStrict true).perform c).1 = .error .strictWithoutResolver ∧
      ((Call.setStrict true).perform c).2 = some c := by
  intro strict c
  let s : Settings := ⟨some [.applicationJson], true, .text, none⟩
  have hs : Reached .text [.applicationJson] strict := .ofSettings (s := s) rfl
  have hstrict := (reached_guarantee hs).1 rfl
  -- taking the resolver away is refused while matching is strict, and done after that
  have hrefused := hs.call (.setResolver none) rfl
  have hlenient := hrefused.call (.setStrict false) rfl
  have hc : Reached .text [.applicationJson] c := hlenient.call (.setResolver none) rfl
  obtain ⟨-, -, hiff, hsame⟩ := reached_guarantee hc
  have h := (hiff (.setStrict true) .strictWithoutResolver).2
    (.noResolver (.inl rfl) (by simp [c]) rfl)
  exact ⟨⟨hs, rfl, hstrict⟩, hc, h, hsame _ _ trivial h⟩

end Conneg.Converter
