import DuckDbConn.Sql.Lexer
import DuckDbConn.Sql.TableFactor
import DuckDbConn.Engine
import DuckDbConn.Error
import DuckDbConn.Attachments.Basic
import DuckDbConn.Attachments.Statements
import DuckDbConn.Attachments.Lifecycle
import DuckDbConn.Connection.QueryArrow
import DuckDbConn.Connection.Stream
import DuckDbConn.Connection.Liveness
import DuckDbConn.Connection.Sequential
import DuckDbConn.Arrow.DataType
import DuckDbConn.SchemaValidator
import DuckDbConn.TableReference
