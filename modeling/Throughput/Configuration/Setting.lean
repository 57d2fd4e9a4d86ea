/-! What can be set, by a variable of the environment or on the command line. -/
namespace Throughput.Configuration

inductive NumberSetting where
  | interval | initialDelay
  deriving DecidableEq, Repr

inductive SwitchSetting where
  | log | disabled | debug | trace
  deriving DecidableEq, Repr

inductive TextSetting where
  | environmentVariable
  | basicUrl | basicUsername | basicPassword
  | mtlsUrl | mtlsCertificate | mtlsKey | mtlsDirectory
  deriving DecidableEq, Repr

inductive Setting where
  | number (n : NumberSetting)
  | switch (s : SwitchSetting)
  | text (t : TextSetting)
  deriving DecidableEq, Repr

def NumberSetting.default : NumberSetting → UInt64
  | interval => 10
  | initialDelay => 30

def TextSetting.isPath : TextSetting → Bool
  | mtlsCertificate | mtlsKey | mtlsDirectory => true
  | _ => false

namespace Setting

def all : List Setting := [
  number .interval, number .initialDelay,
  switch .log, switch .disabled, switch .debug, switch .trace,
  text .environmentVariable, text .basicUrl, text .basicUsername, text .basicPassword,
  text .mtlsUrl, text .mtlsCertificate, text .mtlsKey, text .mtlsDirectory]

theorem mem_all (s : Setting) : s ∈ all := by
  rcases s with s | s | s <;> cases s <;> decide

def key : Setting → String
  | number .interval => "interval_seconds"
  | number .initialDelay => "initial_delay_seconds"
  | switch .log => "enable_log_emitter"
  | switch .disabled => "disable_agent"
  | switch .debug => "debug"
  | switch .trace => "trace"
  | text .environmentVariable => "environment_var_name"
  | text .basicUrl => "basic_url"
  | text .basicUsername => "basic_username"
  | text .basicPassword => "basic_password"
  | text .mtlsUrl => "mtls_url"
  | text .mtlsCertificate => "mtls_cert_path"
  | text .mtlsKey => "mtls_key_path"
  | text .mtlsDirectory => "mtls_ca_dir"

def long (s : Setting) : List Char := s.key.toList.map fun c => if c = '_' then '-' else c

def short? : Setting → Option Char
  | number .interval => some 'i'
  | switch .debug => some 'd'
  | text .environmentVariable => some 'e'
  | _ => none

end Setting
end Throughput.Configuration
