import Bumper.Python.Basic
import Bumper.Python.Strings
import Bumper.Python.Url
import Bumper.Python.Time
import Bumper.Helperbot
import Bumper.Server
import Bumper.Plugin.Message
import Bumper.Plugin.Auth
import Bumper.Plugin.Lifecycle
import Bumper.Plugin.Admission
import Bumper.Plugin.Topics
import Bumper.Plugin.PasswordFile
import Bumper.ProxyClient
import Bumper.ProxyClient.Connect
import Bumper.System.World
import Bumper.System.Correlator
import Bumper.System.ProxyTable
import Bumper.System.Presence
import Bumper.System.Delivery
