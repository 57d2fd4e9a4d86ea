import Throughput.Agent
import Throughput.Configuration.Arguments
import Throughput.Configuration.Variables

/-! The configuration of the program: variables of the environment, overridden by the
command line. -/
namespace Throughput

structure Configuration where
  number : Configuration.NumberSetting → UInt64
  switch : Configuration.SwitchSetting → Bool
  text : Configuration.TextSetting → Option String

namespace Configuration

def refusal : String := "Invalid configuration"

/-- All variables must fit their settings, also those that an argument overrides. A switch
is on where either turns it on. -/
def load (v : Variables) (a : Arguments) : Except Error Configuration :=
  match v.faults with
  | e :: _ => .error e
  | [] => .ok
    { number := fun n => (a.number n).getD (((v.number? n).toOption.join).getD n.default)
      switch := fun s => ((v.switch? s).toOption.join).getD false || a.switch s
      text := fun t => (a.text t).or (v.text? t).toOption.join }

def logLevel (c : Configuration) : Level :=
  if c.switch .trace then .trace else if c.switch .debug then .debug else .info

def overrides (c : Configuration) : Policy.Overrides where
  basicUrl := c.text .basicUrl
  basicUsername := c.text .basicUsername
  basicPassword := c.text .basicPassword
  mtlsUrl := c.text .mtlsUrl
  mtlsCertificate := c.text .mtlsCertificate
  mtlsKey := c.text .mtlsKey
  mtlsDirectory := c.text .mtlsDirectory

def agentSettings (c : Configuration) : Agent.Settings where
  report :=
    { interval := (c.number .interval).toNat * 1000
      initialDelay := (c.number .initialDelay).toNat * 1000 }
  log := c.switch .log
  environmentVariable := c.text .environmentVariable
  overrides := c.overrides

end Configuration
end Throughput
