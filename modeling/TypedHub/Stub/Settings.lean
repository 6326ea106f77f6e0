/-!
# Settings of the written sources
-/

namespace TypedHub

/-- The names of the untyped transport that stubs are written against. -/
structure Transport where
  connectionType : String := "Microsoft.AspNetCore.SignalR.Client.HubConnection"
  /-- Calls a method of the hub by its name: connection, name, arguments, cancellation token. -/
  invoke : String := "Microsoft.AspNetCore.SignalR.Client.HubConnectionExtensions.InvokeAsync"
  /-- Subscribes to calls by the hub: connection, name, handler. -/
  subscribe : String := "Microsoft.AspNetCore.SignalR.Client.HubConnectionExtensions.On"
  cancellationType : String := "System.Threading.CancellationToken"
  /-- The cancellation token that never cancels. -/
  neverCancel : String := "System.Threading.CancellationToken.None"
  /-- The property of the class that holds the connection. -/
  connectionProperty : String := "HubConnection"
  deriving DecidableEq

/-- The name of this program, as it is stamped into sources. -/
def programName : String := "hub-stubgen"

/-- The version of this program, as it is stamped into sources. -/
def programVersion : String := "0.1.0"

/-- What the sources depend on besides the stub. -/
structure Settings where
  generatorName : String := programName
  generatorVersion : String := programVersion
  transport : Transport := {}
  deriving DecidableEq

end TypedHub
