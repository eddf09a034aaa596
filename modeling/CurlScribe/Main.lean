import CurlScribe.CommandLine

open CurlScribe

def report (o : CommandLine.Outcome) : IO UInt32 := do
  for line in o.messages do IO.eprintln line
  if let some f := o.trace then IO.eprintln f.message
  IO.print o.output
  return o.status.toUInt32

def main (arguments : List String) : IO UInt32 := do
  let language ← IO.getEnv "CURLCONVERTER_LANGUAGE"
  let input ← if CommandLine.readsInput arguments then (← IO.getStdin).readToEnd else pure ""
  match CommandLine.run { arguments, input, language } with
  | .ok o => report o
  | .error f => do
    IO.eprintln f.message
    return 1
