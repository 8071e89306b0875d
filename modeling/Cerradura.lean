import Cerradura.As608Scan
import Cerradura.ScanWait
import Cerradura.ScanMatch
import Cerradura.Server
import Cerradura.Version
import Cerradura.CText
import Cerradura.CQuote
import Cerradura.PinTable
import Cerradura.SyncBody
import Cerradura.EspJson
import Cerradura.JsonObject
import Cerradura.EspAT
import Cerradura.JsonArray
import Cerradura.JsonKeys
import Cerradura.Sync
import Cerradura.Acceso
import Cerradura.Alarma
import Cerradura.Cerrojo
import Cerradura.Conmuta
import Cerradura.Enrolado
import Cerradura.Falsificacion
import Cerradura.Hilos
import Cerradura.Huellas
import Cerradura.Maestro
import Cerradura.Menor
import Cerradura.Peticion
import Cerradura.Tarjeta
import Cerradura.IdLibre
import Cerradura.Saludo
import Cerradura.Borrado
import Cerradura.Conexion
import Cerradura.Subidas
import Cerradura.Desactivado
import Cerradura.Pulsaciones
import Cerradura.Registro
import Cerradura.As608Frame
import Cerradura.Dormir
import Cerradura.Restore
import Cerradura.Rc522
import Cerradura.Pantalla
import Cerradura.ModuloSensor
import Cerradura.OrdenesSensor
import Cerradura.LineaEsp
import Cerradura.Quieto
import Cerradura.Sola
import Cerradura.Diagrama
import Cerradura.Procedencia
import Cerradura.Apertura
import Cerradura.Motor
import Cerradura.Legible
import Cerradura.Identidad
