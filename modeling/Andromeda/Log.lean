namespace Andromeda

inductive Level where
  | debug
  | info
  | warning
  deriving DecidableEq, Repr

def Level.name : Level → String
  | .debug => "DEBUG"
  | .info => "INFO"
  | .warning => "WARNING"

structure LogRecord where
  level : Level
  message : String
  deriving DecidableEq, Repr

end Andromeda
