import Rhc.Go.Strings
import Rhc.Go.Filepath
import Rhc.Go.Url
import Rhc.Slog.Level
import Rhc.Conf.Config
import Rhc.Conf.Resolve
import Rhc.Conf.Source
import Rhc.Conf.DropIn
import Rhc.Conf.Read
import Rhc.Conf.Init
import Rhc.Conf.Outcome
import Rhc.Cli.Altsrc
import Rhc.Cli.BeforeAction
import Rhc.Cli.Completion
import Rhc.Interactive.Settings
import Rhc.Interactive.Messages
import Rhc.Cmd.Disconnect
import Rhc.Cmd.Connect
import Rhc.Cmd.Status
import Rhc.Cmd.Collector
