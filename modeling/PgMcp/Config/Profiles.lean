import PgMcp.Config
import PgMcp.Lib.Table
import Mathlib.Data.String.Basic

/-!
# Profiles

A document gives limits in three layers: its defaults, its top-level (legacy) values, and
the values of each profile.  A higher layer overrides a lower one field by field, and
what no layer sets has its built-in value.

## Main definitions

* `Config.validate` — the range check of every limit.
* `ConfigOverrides` — a layer, with `merge` and `intoConfig`.
* `ConfigFile.validate` — the check when a document is loaded.
* `ConfigFile.profileConfig` — the limits of one profile.

## Main results

* `Config.validate_ok` — a configuration passes when every field is in its range, and
  every error names the field it is about.
* `ConfigFile.validate_eq` — loading checks the base configuration only.
* `ConfigFile.profileConfig_ok` — the limits a profile is opened with.
* `ConfigFile.coversProfiles_iff` — when the check at load time covers the profiles.
-/

namespace PgMcp

/-- Why a document or a profile is refused. -/
inductive ConfigError where
  | invalid (field : String) (minimum maximum value : ℕ)
  | unknownProfile
  | dsnCommand
  | emptyDsn
  | invalidDsnOutput
  | dsnTimeout
  deriving DecidableEq, Repr

/-! ### Fields and their ranges -/

/-- The limits and timeouts. -/
inductive ConfigField where
  | maxHandles | outstandingRequests | sqlBytes | parameters | parameterBytes | resultRows
  | columns | cellBytes | resultJsonBytes | requestTimeoutSeconds | connectionTimeoutSeconds
  | cancelDrainGraceSeconds | shutdownTotalSeconds
  deriving DecidableEq, Repr

namespace ConfigField

/-- The fields in the order they are checked. -/
def all : List ConfigField :=
  [maxHandles, outstandingRequests, sqlBytes, parameters, parameterBytes, resultRows, columns,
    cellBytes, resultJsonBytes, requestTimeoutSeconds, connectionTimeoutSeconds,
    cancelDrainGraceSeconds, shutdownTotalSeconds]

theorem mem_all (f : ConfigField) : f ∈ all := by cases f <;> simp [all]

/-- The name of the field in a document. -/
def name : ConfigField → String
  | maxHandles => "max_handles"
  | outstandingRequests => "outstanding_requests"
  | sqlBytes => "sql_bytes"
  | parameters => "parameters"
  | parameterBytes => "parameter_bytes"
  | resultRows => "result_rows"
  | columns => "columns"
  | cellBytes => "cell_bytes"
  | resultJsonBytes => "result_json_bytes"
  | requestTimeoutSeconds => "request_timeout_seconds"
  | connectionTimeoutSeconds => "connection_timeout_seconds"
  | cancelDrainGraceSeconds => "cancel_drain_grace_seconds"
  | shutdownTotalSeconds => "shutdown_total_seconds"

/-- The documented range, both ends included. -/
def range : ConfigField → ℕ × ℕ
  | maxHandles => (1, 128)
  | outstandingRequests => (1, 1024)
  | sqlBytes => (1, 1048576)
  | parameters => (0, 65535)
  | parameterBytes => (0, 16777216)
  | resultRows => (1, 100000)
  | columns => (1, 1600)
  | cellBytes => (1, 16777216)
  | resultJsonBytes => (1024, 67108864)
  | requestTimeoutSeconds | connectionTimeoutSeconds | cancelDrainGraceSeconds
  | shutdownTotalSeconds => (1, 300)

/-- The value is within the range of the field. -/
def Within (f : ConfigField) (value : ℕ) : Prop := f.range.1 ≤ value ∧ value ≤ f.range.2

instance (f : ConfigField) (value : ℕ) : Decidable (f.Within value) :=
  inferInstanceAs (Decidable (_ ∧ _))

end ConfigField

/-- The value of a field. -/
def Config.get (c : Config) : ConfigField → ℕ
  | .maxHandles => c.maxHandles
  | .outstandingRequests => c.outstandingRequests
  | .sqlBytes => c.sqlBytes
  | .parameters => c.parameters
  | .parameterBytes => c.parameterBytes
  | .resultRows => c.resultRows
  | .columns => c.columns
  | .cellBytes => c.cellBytes
  | .resultJsonBytes => c.resultJsonBytes
  | .requestTimeoutSeconds => c.requestTimeoutSeconds
  | .connectionTimeoutSeconds => c.connectionTimeoutSeconds
  | .cancelDrainGraceSeconds => c.cancelDrainGraceSeconds
  | .shutdownTotalSeconds => c.shutdownTotalSeconds

/-- Every field is within its documented range. -/
def Config.InRange (c : Config) : Prop := ∀ f : ConfigField, f.Within (c.get f)

theorem Config.ext_get {c d : Config} (h : ∀ f, c.get f = d.get f) : c = d := by
  obtain ⟨⟩ := c
  obtain ⟨⟩ := d
  rw [Config.mk.injEq]
  exact ⟨h .maxHandles, h .outstandingRequests, h .sqlBytes, h .parameters, h .parameterBytes,
    h .resultRows, h .columns, h .cellBytes, h .resultJsonBytes, h .requestTimeoutSeconds,
    h .connectionTimeoutSeconds, h .cancelDrainGraceSeconds, h .shutdownTotalSeconds⟩

/-- The range check of a count. -/
def validateUsize (field : String) (value : ℕ) (range : ℕ × ℕ) : Except ConfigError Unit :=
  if range.1 ≤ value ∧ value ≤ range.2 then .ok ()
  else .error (.invalid field range.1 range.2 value)

/-- The range check of a timeout. -/
def validateU64 (field : String) (value : ℕ) (range : ℕ × ℕ) : Except ConfigError Unit :=
  validateUsize field value range

/-- The range check of every limit. -/
def Config.validate (c : Config) : Except ConfigError Unit := do
  validateUsize "max_handles" c.maxHandles (1, 128)
  validateUsize "outstanding_requests" c.outstandingRequests (1, 1024)
  validateUsize "sql_bytes" c.sqlBytes (1, 1048576)
  validateUsize "parameters" c.parameters (0, 65535)
  validateUsize "parameter_bytes" c.parameterBytes (0, 16777216)
  validateUsize "result_rows" c.resultRows (1, 100000)
  validateUsize "columns" c.columns (1, 1600)
  validateUsize "cell_bytes" c.cellBytes (1, 16777216)
  validateUsize "result_json_bytes" c.resultJsonBytes (1024, 67108864)
  validateU64 "request_timeout_seconds" c.requestTimeoutSeconds (1, 300)
  validateU64 "connection_timeout_seconds" c.connectionTimeoutSeconds (1, 300)
  validateU64 "cancel_drain_grace_seconds" c.cancelDrainGraceSeconds (1, 300)
  validateU64 "shutdown_total_seconds" c.shutdownTotalSeconds (1, 300)
  .ok ()

/-- The check of one field. -/
def Config.check (c : Config) (f : ConfigField) : Except ConfigError Unit :=
  validateUsize f.name (c.get f) f.range

theorem Config.check_cases (c : Config) (f : ConfigField) :
    (f.Within (c.get f) ∧ c.check f = .ok ()) ∨
      (¬ f.Within (c.get f) ∧
        c.check f = .error (.invalid f.name f.range.1 f.range.2 (c.get f))) := by
  by_cases h : f.Within (c.get f)
  · exact .inl ⟨h, if_pos h⟩
  · exact .inr ⟨h, if_neg h⟩

theorem Config.validate_eq_forM (c : Config) : c.validate = ConfigField.all.forM c.check := rfl

/-- The checks up to the first that fails. -/
theorem Config.forM_check (c : Config) (fields : List ConfigField) :
    ((∀ f ∈ fields, f.Within (c.get f)) ∧ fields.forM c.check = .ok ()) ∨
      ∃ f ∈ fields, ¬ f.Within (c.get f) ∧
        fields.forM c.check = .error (.invalid f.name f.range.1 f.range.2 (c.get f)) := by
  induction fields with
  | nil => exact .inl ⟨by simp, rfl⟩
  | cons f fields ih =>
    rcases c.check_cases f with ⟨hin, hok⟩ | ⟨hout, herr⟩
    · have hcons : (f :: fields).forM c.check = fields.forM c.check := by
        show (c.check f >>= fun _ => fields.forM c.check) = _
        rw [hok]
        rfl
      rw [hcons]
      rcases ih with ⟨hall, h⟩ | ⟨g, hg, hout, h⟩
      · exact .inl ⟨List.forall_mem_cons.mpr ⟨hin, hall⟩, h⟩
      · exact .inr ⟨g, List.mem_cons_of_mem f hg, hout, h⟩
    · refine .inr ⟨f, List.mem_cons_self, hout, ?_⟩
      show (c.check f >>= fun _ => fields.forM c.check) = _
      rw [herr]
      rfl

/-- A configuration passes, or the error names a field that is out of its range. -/
theorem Config.validate_cases (c : Config) :
    (c.InRange ∧ c.validate = .ok ()) ∨
      ∃ f : ConfigField, ¬ f.Within (c.get f) ∧
        c.validate = .error (.invalid f.name f.range.1 f.range.2 (c.get f)) := by
  rw [c.validate_eq_forM]
  rcases c.forM_check ConfigField.all with ⟨hall, h⟩ | ⟨f, -, hout, h⟩
  · exact .inl ⟨fun f => hall f f.mem_all, h⟩
  · exact .inr ⟨f, hout, h⟩

theorem Config.validate_ok {c : Config} : c.validate = .ok () ↔ c.InRange := by
  rcases c.validate_cases with ⟨hin, h⟩ | ⟨f, hout, h⟩
  · exact iff_of_true h hin
  · refine iff_of_false ?_ fun hin => hout (hin f)
    rw [h]
    nofun

theorem Config.default_inRange : Config.default.InRange := by
  intro f
  cases f <;> decide

/-! ### Layers -/

/-- One layer: the limits it sets. -/
structure ConfigOverrides where
  maxHandles : Option ℕ := none
  outstandingRequests : Option ℕ := none
  sqlBytes : Option ℕ := none
  parameters : Option ℕ := none
  parameterBytes : Option ℕ := none
  resultRows : Option ℕ := none
  columns : Option ℕ := none
  cellBytes : Option ℕ := none
  resultJsonBytes : Option ℕ := none
  requestTimeoutSeconds : Option ℕ := none
  connectionTimeoutSeconds : Option ℕ := none
  cancelDrainGraceSeconds : Option ℕ := none
  shutdownTotalSeconds : Option ℕ := none
  deriving DecidableEq, Repr

/-- The built-in values with a layer over them. -/
def Config.apply (c : Config) (o : ConfigOverrides) : Config where
  maxHandles := o.maxHandles.getD c.maxHandles
  outstandingRequests := o.outstandingRequests.getD c.outstandingRequests
  sqlBytes := o.sqlBytes.getD c.sqlBytes
  parameters := o.parameters.getD c.parameters
  parameterBytes := o.parameterBytes.getD c.parameterBytes
  resultRows := o.resultRows.getD c.resultRows
  columns := o.columns.getD c.columns
  cellBytes := o.cellBytes.getD c.cellBytes
  resultJsonBytes := o.resultJsonBytes.getD c.resultJsonBytes
  requestTimeoutSeconds := o.requestTimeoutSeconds.getD c.requestTimeoutSeconds
  connectionTimeoutSeconds := o.connectionTimeoutSeconds.getD c.connectionTimeoutSeconds
  cancelDrainGraceSeconds := o.cancelDrainGraceSeconds.getD c.cancelDrainGraceSeconds
  shutdownTotalSeconds := o.shutdownTotalSeconds.getD c.shutdownTotalSeconds

namespace ConfigOverrides

/-- `higher` over `self`, field by field. -/
def merge (self higher : ConfigOverrides) : ConfigOverrides where
  maxHandles := higher.maxHandles.or self.maxHandles
  outstandingRequests := higher.outstandingRequests.or self.outstandingRequests
  sqlBytes := higher.sqlBytes.or self.sqlBytes
  parameters := higher.parameters.or self.parameters
  parameterBytes := higher.parameterBytes.or self.parameterBytes
  resultRows := higher.resultRows.or self.resultRows
  columns := higher.columns.or self.columns
  cellBytes := higher.cellBytes.or self.cellBytes
  resultJsonBytes := higher.resultJsonBytes.or self.resultJsonBytes
  requestTimeoutSeconds := higher.requestTimeoutSeconds.or self.requestTimeoutSeconds
  connectionTimeoutSeconds := higher.connectionTimeoutSeconds.or self.connectionTimeoutSeconds
  cancelDrainGraceSeconds := higher.cancelDrainGraceSeconds.or self.cancelDrainGraceSeconds
  shutdownTotalSeconds := higher.shutdownTotalSeconds.or self.shutdownTotalSeconds

def intoConfig (o : ConfigOverrides) : Config := Config.default.apply o

/-- A layer that sets every field. -/
def fromConfig (c : Config) : ConfigOverrides where
  maxHandles := some c.maxHandles
  outstandingRequests := some c.outstandingRequests
  sqlBytes := some c.sqlBytes
  parameters := some c.parameters
  parameterBytes := some c.parameterBytes
  resultRows := some c.resultRows
  columns := some c.columns
  cellBytes := some c.cellBytes
  resultJsonBytes := some c.resultJsonBytes
  requestTimeoutSeconds := some c.requestTimeoutSeconds
  connectionTimeoutSeconds := some c.connectionTimeoutSeconds
  cancelDrainGraceSeconds := some c.cancelDrainGraceSeconds
  shutdownTotalSeconds := some c.shutdownTotalSeconds

/-- What the layer sets a field to. -/
def get (o : ConfigOverrides) : ConfigField → Option ℕ
  | .maxHandles => o.maxHandles
  | .outstandingRequests => o.outstandingRequests
  | .sqlBytes => o.sqlBytes
  | .parameters => o.parameters
  | .parameterBytes => o.parameterBytes
  | .resultRows => o.resultRows
  | .columns => o.columns
  | .cellBytes => o.cellBytes
  | .resultJsonBytes => o.resultJsonBytes
  | .requestTimeoutSeconds => o.requestTimeoutSeconds
  | .connectionTimeoutSeconds => o.connectionTimeoutSeconds
  | .cancelDrainGraceSeconds => o.cancelDrainGraceSeconds
  | .shutdownTotalSeconds => o.shutdownTotalSeconds

/-- What the layer sets is within range. -/
def InRange (o : ConfigOverrides) : Prop :=
  ∀ (f : ConfigField) (value : ℕ), o.get f = some value → f.Within value

@[simp] theorem get_merge (o higher : ConfigOverrides) (f : ConfigField) :
    (o.merge higher).get f = (higher.get f).or (o.get f) := by
  cases f <;> rfl

@[simp] theorem get_fromConfig (c : Config) (f : ConfigField) :
    (fromConfig c).get f = some (c.get f) := by
  cases f <;> rfl

@[simp] theorem get_apply (c : Config) (o : ConfigOverrides) (f : ConfigField) :
    (c.apply o).get f = (o.get f).getD (c.get f) := by
  cases f <;> rfl

@[simp] theorem get_intoConfig (o : ConfigOverrides) (f : ConfigField) :
    o.intoConfig.get f = (o.get f).getD (Config.default.get f) :=
  get_apply _ _ _

/-- Under a layer that sets every field nothing is left of the lower one. -/
theorem intoConfig_merge_fromConfig (o : ConfigOverrides) (c : Config) :
    (o.merge (fromConfig c)).intoConfig = c := by
  refine Config.ext_get fun f => ?_
  simp

end ConfigOverrides

/-! ### Documents -/

structure Profile where
  dsn : String
  overrides : ConfigOverrides
  deriving DecidableEq, Repr

/-- A profile document. -/
structure ConfigFile where
  defaults : ConfigOverrides := {}
  profiles : Table String Profile := ∅
  legacy : ConfigOverrides := {}

namespace ConfigFile

open ConfigOverrides

def baseConfig (file : ConfigFile) : Config := (file.defaults.merge file.legacy).intoConfig

/-- The check when a document is loaded. -/
def validate (file : ConfigFile) : Except ConfigError Unit := do
  let base := file.baseConfig
  base.validate
  let base := fromConfig base
  file.profiles.values.forM fun p => (p.overrides.merge base).intoConfig.validate

/-- The limits of a profile. -/
def profileConfigForProfile (file : ConfigFile) (profile : Profile) :
    Except ConfigError Config := do
  let config := ((file.defaults.merge file.legacy).merge profile.overrides).intoConfig
  config.validate
  return config

/-- The limits of a profile, by its name. -/
def profileConfig (file : ConfigFile) (profile : String) : Except ConfigError Config :=
  match file.profiles.lookup profile with
  | none => .error .unknownProfile
  | some p => file.profileConfigForProfile p

/-- The time a shutdown may take: the longest of the profiles'. -/
def shutdownTotalSeconds (file : ConfigFile) : ℕ :=
  ((file.profiles.values.filterMap fun p =>
      (file.profileConfigForProfile p).toOption.map Config.shutdownTotalSeconds).max?).getD
    file.baseConfig.shutdownTotalSeconds

/-- The value a profile gives a field: its own, else that of the document's top level, else
the document's default, else the built-in one. -/
def effective (file : ConfigFile) (p : Profile) (f : ConfigField) : ℕ :=
  match p.overrides.get f, file.legacy.get f, file.defaults.get f with
  | some value, _, _ | none, some value, _ | none, none, some value => value
  | none, none, none => Config.default.get f

/-- The base and every profile are within range. -/
def EffectiveInRange (file : ConfigFile) : Prop :=
  file.baseConfig.InRange ∧
    ∀ name p, file.profiles.lookup name = some p →
      ∀ f : ConfigField, f.Within (file.effective p f)

/-- Loading accepts the document exactly when every profile can be opened with limits that
are within range. -/
def CoversProfiles (file : ConfigFile) : Prop :=
  (file.validate = .ok () →
    ∀ name p, file.profiles.lookup name = some p →
      ∃ c, file.profileConfig name = .ok c ∧ c.InRange ∧ ∀ f, c.get f = file.effective p f) ∧
  (file.EffectiveInRange → file.validate = .ok ())

/-! ### What is checked and what is opened -/

theorem get_baseConfig (file : ConfigFile) (f : ConfigField) :
    file.baseConfig.get f =
      ((file.legacy.get f).or (file.defaults.get f)).getD (Config.default.get f) := by
  unfold baseConfig
  rw [get_intoConfig, get_merge]

/-- The limits a profile is resolved with. -/
theorem get_profile (file : ConfigFile) (p : Profile) (f : ConfigField) :
    ((file.defaults.merge file.legacy).merge p.overrides).intoConfig.get f =
      file.effective p f := by
  rw [get_intoConfig, get_merge, get_merge]
  unfold effective
  cases p.overrides.get f <;> cases file.legacy.get f <;> cases file.defaults.get f <;> rfl

/-- A profile's own value comes first, and under it the base. -/
theorem effective_eq (file : ConfigFile) (p : Profile) (f : ConfigField) :
    file.effective p f = (p.overrides.get f).getD (file.baseConfig.get f) := by
  rw [← get_profile, get_intoConfig, get_merge, get_baseConfig, get_merge]
  cases p.overrides.get f <;> rfl

/-- Loading checks the base only: every profile is merged under it. -/
theorem validate_eq (file : ConfigFile) : file.validate = file.baseConfig.validate := by
  have hdo : file.validate = file.baseConfig.validate >>= fun _ =>
      file.profiles.values.forM fun p =>
        (p.overrides.merge (fromConfig file.baseConfig)).intoConfig.validate := rfl
  rw [hdo]
  rcases hv : file.baseConfig.validate with e | ⟨⟨⟩⟩
  · rfl
  · simp only [intoConfig_merge_fromConfig, hv]
    show (file.profiles.values.forM fun _ => (Except.ok () : Except ConfigError Unit)) = _
    induction file.profiles.values with
    | nil => rfl
    | cons p ps ih => exact ih

theorem profileConfigForProfile_cases (file : ConfigFile) (p : Profile) :
    (∃ c, file.profileConfigForProfile p = .ok c ∧ c.InRange ∧
        ∀ f, c.get f = file.effective p f) ∨
      ∃ f : ConfigField, ¬ f.Within (file.effective p f) ∧
        file.profileConfigForProfile p =
          .error (.invalid f.name f.range.1 f.range.2 (file.effective p f)) := by
  set c := ((file.defaults.merge file.legacy).merge p.overrides).intoConfig with hc
  have heff : ∀ f, c.get f = file.effective p f := file.get_profile p
  have heq : file.profileConfigForProfile p = c.validate >>= fun _ => pure c := rfl
  rw [heq]
  rcases c.validate_cases with ⟨hin, h⟩ | ⟨f, hout, h⟩
  · exact .inl ⟨c, by rw [h]; rfl, hin, heff⟩
  · rw [heff] at hout h
    exact .inr ⟨f, hout, by rw [h]; rfl⟩

theorem profileConfig_inRange (file : ConfigFile) {name : String} {c : Config}
    (h : file.profileConfig name = .ok c) : c.InRange := by
  unfold profileConfig at h
  split at h
  · cases h
  · next p hp =>
    rcases file.profileConfigForProfile_cases p with ⟨c', hok, hin, -⟩ | ⟨f, -, herr⟩
    · rw [hok] at h
      cases h
      exact hin
    · rw [herr] at h
      cases h

/-- A profile opens with the effective limits when these are within range. -/
theorem profileConfig_ok (file : ConfigFile) {name : String} {p : Profile}
    (h : file.profiles.lookup name = some p) :
    (∃ c, file.profileConfig name = .ok c ∧ c.InRange ∧ ∀ f, c.get f = file.effective p f) ↔
      ∀ f : ConfigField, f.Within (file.effective p f) := by
  unfold profileConfig
  rw [h]
  constructor
  · rintro ⟨c, -, hin, heff⟩ f
    rw [← heff f]
    exact hin f
  · intro hin
    rcases file.profileConfigForProfile_cases p with hok | ⟨f, hout, -⟩
    · exact hok
    · exact absurd (hin f) hout

/-- Over a base within range, a profile is within range when what it sets is. -/
theorem effective_within_iff (file : ConfigFile) (p : Profile) (hbase : file.baseConfig.InRange) :
    (∀ f : ConfigField, f.Within (file.effective p f)) ↔ p.overrides.InRange := by
  constructor
  · intro h f value hv
    have := h f
    rw [file.effective_eq, hv] at this
    exact this
  · intro h f
    rw [file.effective_eq]
    rcases hv : p.overrides.get f with _ | value
    · exact hbase f
    · exact h f value hv

/-- The check at load time covers the profiles exactly when the base is out of range or
every value a profile sets is within range. -/
theorem coversProfiles_iff (file : ConfigFile) :
    file.CoversProfiles ↔
      (file.baseConfig.InRange →
        ∀ name p, file.profiles.lookup name = some p → p.overrides.InRange) := by
  have hvalid : file.validate = .ok () ↔ file.baseConfig.InRange := by
    rw [file.validate_eq, Config.validate_ok]
  constructor
  · rintro ⟨hcovers, -⟩ hbase name p hp
    have hok := hcovers (hvalid.mpr hbase) name p hp
    rw [file.profileConfig_ok hp] at hok
    exact (file.effective_within_iff p hbase).mp hok
  · intro h
    refine ⟨fun hv name p hp => ?_, fun heff => hvalid.mpr heff.1⟩
    have hbase := hvalid.mp hv
    rw [file.profileConfig_ok hp, file.effective_within_iff p hbase]
    exact h hbase name p hp

/-- A document whose one profile allows no handles. -/
def withoutHandles : ConfigFile where
  profiles := AList.singleton "local"
    { dsn := "printf dbname=actual_db", overrides := { maxHandles := some 0 } }

/-- It is accepted when it is loaded, and its profile cannot be opened. -/
theorem accepts_profile_without_handles : ¬ withoutHandles.CoversProfiles := by
  intro h
  have hvalid : withoutHandles.validate = .ok () := by
    rw [validate_eq, Config.validate_ok]
    exact Config.default_inRange
  obtain ⟨c, hc, -⟩ := h.1 hvalid "local" _ rfl
  have hrefused : withoutHandles.profileConfig "local" =
      .error (.invalid "max_handles" 1 128 0) := rfl
  rw [hrefused] at hc
  cases hc

end ConfigFile

end PgMcp
