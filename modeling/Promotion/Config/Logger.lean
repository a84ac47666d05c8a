import Promotion.Config.Reading

/-!
# The logger

How a service logs: under which name, from which level on, and in which form.
-/

namespace Promotion

structure LoggerConfig where
  serviceName : String := "unknown-service"
  level : String := "info"
  jsonLogs : Bool := false
deriving DecidableEq, Repr

/-- Whether two texts differ in the case of ASCII letters at most. -/
def sameLetters (a b : String) : Bool :=
  a.toList.map Text.lower == b.toList.map Text.lower

namespace LoggerConfig

def ofLogging (service : String) (logging : LoggingConfig) : LoggerConfig where
  serviceName := service
  level := logging.level
  jsonLogs := sameLetters logging.format "json"

end LoggerConfig

def Reader.loggerConfig : Reader LoggerConfig :=
  let unset : LoggerConfig := {}
  .record "ObservabilityConfig"
    (LoggerConfig.mk <$> .required "service_name" text <*> .withDefault "log_level" text unset.level
      <*> .withDefault "json_logs" bool unset.jsonLogs)

end Promotion
